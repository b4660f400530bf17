/-
What a grid answers when it is asked for values.

On a grid whose dependencies all lead to cells of it, no lookup faults, and
each answer has a closed form: a name that denotes no cell is refused, then
a cell from which dependencies lead back, then a cell without a number.
Answers therefore depend on four things only, namely the shape of the grid,
which cells lead back, and the values of the cells that are asked for.
-/
import Mathlib.Data.List.Find
import Worksheet.Proofs.CellName.Positions
import Worksheet.Proofs.Grid.Reach

namespace Worksheet

open Relation (ReflTransGen)

-- ================================================================== names

/-- No name denotes a cell below the first one. -/
private theorem nonneg_of_indexOfName {name : String} {numCols i : Int}
    (h : indexOfName name numCols = .ok i) : 0 ≤ i := by
  unfold indexOfName at h
  obtain ⟨p, -, h⟩ := bind_ok h
  split at h
  · cases h
  · next hcol =>
    cases h
    have : 0 ≤ (p.row : Int) * numCols := Int.mul_nonneg (by omega) (by omega)
    omega

/-- Nor does a rectangle reach below it. -/
private theorem nonneg_of_mem_indicesOfRange {first last : String}
    {numCols : Int} {indices : List Int}
    (h : indicesOfRange first last numCols = .ok indices) :
    ∀ i ∈ indices, 0 ≤ i := by
  obtain ⟨a, b, -, -, hcol, rfl⟩ := indicesOfRange_ok h
  intro i hi
  obtain ⟨p, -, rfl⟩ := List.mem_map.mp hi
  have : 0 ≤ (p.row : Int) * numCols := Int.mul_nonneg (by omega) (by omega)
  unfold Position.index
  omega

namespace Grid

variable {g h : Grid} {i current k : Int} {name first last : String}
  {l : List Int}

/-- A name that has an index on the grid denotes one of its cells. -/
theorem mem_of_indexOf (hname : g.indexOf name = .ok k) : k ∈ g := by
  unfold indexOf at hname
  split at hname
  · next heq =>
    split at hname
    · cases hname
    · next hlt =>
      cases hname
      exact ⟨nonneg_of_indexOfName heq, by omega⟩
  · cases hname

/-- What a name denotes is a matter of the shape of the grid. -/
theorem indexOf_congr (hsize : h.size = g.size)
    (hcols : h.numCols = g.numCols) :
    h.indexOf name = g.indexOf name := by
  unfold indexOf
  rw [hsize, hcols]

-- ================================================================= values

/-- The number that a cell holds; a cell without one is to blame. -/
def numberAt (g : Grid) (i : Int) : Except LookupError Float :=
  match (g.cellAt i).value with
  | none => .error ⟨.notANumber, some i⟩
  | some value => .ok value

/-- The number is read off the value alone. -/
private theorem numberAt_congr
    (hvalue : (h.cellAt i).value = (g.cellAt i).value) :
    h.numberAt i = g.numberAt i := by
  unfold numberAt
  rw [hvalue]

/-- A cell is refused here for one reason only. -/
theorem kind_of_numberAt {e : LookupError} (hnum : g.numberAt i = .error e) :
    e.kind = .notANumber := by
  unfold numberAt at hnum
  split at hnum
  · cases hnum
    rfl
  · cases hnum

/-- So are the numbers of several cells. -/
private theorem mapM_numberAt_congr
    (hvalue : ∀ k ∈ l, (h.cellAt k).value = (g.cellAt k).value) :
    l.mapM h.numberAt = l.mapM g.numberAt := by
  induction l with
  | nil => rfl
  | cons i l ih =>
      rw [List.mapM_cons, List.mapM_cons,
        ih fun k hk => hvalue k (List.mem_cons_of_mem _ hk),
        numberAt_congr (hvalue i List.mem_cons_self)]

/-- And so are several cells refused. -/
theorem kind_of_mapM_numberAt {e : LookupError}
    (hnum : l.mapM g.numberAt = .error e) : e.kind = .notANumber := by
  induction l with
  | nil => cases hnum
  | cons i l ih =>
      rw [List.mapM_cons] at hnum
      cases hi : g.numberAt i with
      | error e' =>
          rw [hi] at hnum
          cases hnum
          exact kind_of_numberAt hi
      | ok x =>
        rw [hi] at hnum
        cases hl : l.mapM g.numberAt with
        | error e' =>
            rw [hl] at hnum
            cases hnum
            exact ih hl
        | ok xs =>
            rw [hl] at hnum
            cases hnum

/-- The values of cells of the grid are their numbers, up to the first that
has none. -/
private theorem valuesOf_of_mem (hl : ∀ i ∈ l, i ∈ g) :
    g.valuesOf l = .ok (l.mapM g.numberAt) := by
  induction l with
  | nil => rfl
  | cons i l ih =>
      have hrest := ih fun k hk => hl k (List.mem_cons_of_mem _ hk)
      rw [valuesOf, cell_of_mem (hl i List.mem_cons_self), List.mapM_cons]
      unfold numberAt
      show (match (g.cellAt i).value with | none => _ | some value => _) = _
      cases (g.cellAt i).value with
      | none => rfl
      | some value =>
          dsimp only
          rw [hrest]
          show _ = Except.ok ((l.mapM g.numberAt).bind _)
          cases l.mapM g.numberAt <;> rfl

open Classical in
/-- The search for a circular cell finds the first one. -/
private theorem firstLeadingTo_of_mem (hg : g.Closed Cell.dependencies)
    (hl : ∀ i ∈ l, i ∈ g) :
    g.firstLeadingTo current l =
      .ok (l.find? fun i => decide (ReflTransGen g.Reads i current)) := by
  induction l with
  | nil => rfl
  | cons i l ih =>
      have hrest := ih fun k hk => hl k (List.mem_cons_of_mem _ hk)
      obtain ⟨b, heq, hb⟩ :=
        @leadsTo_spec g i current hg (hl i List.mem_cons_self)
      rw [firstLeadingTo, heq, List.find?_cons]
      cases b with
      | false =>
          have hnot : ¬ ReflTransGen g.Reads i current := fun h =>
            Bool.false_ne_true (hb.mpr h)
          rw [decide_eq_false hnot]
          exact hrest
      | true =>
          rw [decide_eq_true (hb.mp rfl)]
          rfl

-- ================================================================ lookups

/-- A grid answers for a cell as it looks it up, whatever was asked before. -/
theorem source_cell {asked : List Request} :
    (g.source current).cell asked name = g.lookupCell current name := rfl

/-- So it does for a rectangle. -/
theorem source_range {asked : List Request} :
    (g.source current).range asked first last =
      g.lookupRange current first last := rfl

open Classical in
/-- The answer for a name that denotes a cell. -/
theorem lookupCell_of_indexOf (hg : g.Closed Cell.dependencies)
    (hname : g.indexOf name = .ok k) : g.lookupCell current name =
      .ok (if ReflTransGen g.Reads k current then .error ⟨.circularRef, some k⟩
        else (g.numberAt k).map (⟨·, k⟩)) := by
  have hk := mem_of_indexOf hname
  obtain ⟨b, heq, hb⟩ := @leadsTo_spec g k current hg hk
  unfold lookupCell
  rw [hname]
  dsimp only
  rw [heq, cell_of_mem hk]
  cases b with
  | true =>
      rw [if_pos (hb.mp rfl)]
      rfl
  | false =>
      rw [if_neg fun h => Bool.false_ne_true (hb.mpr h)]
      unfold numberAt
      show (match (g.cellAt k).value with | none => _ | some value => _) = _
      cases (g.cellAt k).value <;> rfl

/-- The answer for a name that denotes none. -/
theorem lookupCell_of_error {f : Fault} (hname : g.indexOf name = .error f) :
    g.lookupCell current name = .ok (.error ⟨.undefinedCell, none⟩) := by
  unfold lookupCell
  rw [hname]

/-- Whether the grid has all of a rectangle is decided by its last index. -/
private theorem getLast?_any_iff
    (hrange : indicesOfRange first last g.numCols = .ok l) :
    l.getLast?.any ((g.size : Int) ≤ ·) = false ↔ ∀ i ∈ l, i ∈ g := by
  cases hlast : l.getLast? with
  | none =>
      rw [List.getLast?_eq_none_iff.mp hlast]
      exact iff_of_true rfl nofun
  | some k =>
      have houtside : (∃ i ∈ l, (g.size : Int) ≤ i) ↔ (g.size : Int) ≤ k :=
        exists_outside_iff hrange hlast
      rw [Option.any_some, decide_eq_false_iff_not, ← houtside]
      constructor
      · intro hnone i hi
        refine ⟨nonneg_of_mem_indicesOfRange hrange i hi, ?_⟩
        exact Int.not_le.mp fun hle => hnone ⟨i, hi, hle⟩
      · rintro hon ⟨i, hi, hle⟩
        exact Int.not_le.mpr (hon i hi).2 hle

open Classical in
/-- The answer for a rectangle of cells of the grid. -/
theorem lookupRange_of_mem (hg : g.Closed Cell.dependencies)
    (hrange : indicesOfRange first last g.numCols = .ok l)
    (hl : ∀ i ∈ l, i ∈ g) :
    g.lookupRange current first last =
      .ok (match l.find? fun i => decide (ReflTransGen g.Reads i current) with
        | some k => .error ⟨.circularRef, some k⟩
        | none => (l.mapM g.numberAt).map (⟨·, l⟩)) := by
  have hin := (getLast?_any_iff hrange).mpr hl
  unfold lookupRange
  rw [hrange]
  dsimp only
  rw [if_neg (by rw [hin]; exact Bool.false_ne_true),
    firstLeadingTo_of_mem hg hl, valuesOf_of_mem hl]
  cases l.find? fun i => decide (ReflTransGen g.Reads i current) <;> rfl

/-- The answer for one of which no cell leads back. -/
theorem lookupRange_of_noCycle (hg : g.Closed Cell.dependencies)
    (hrange : indicesOfRange first last g.numCols = .ok l)
    (hl : ∀ i ∈ l, i ∈ g) (hback : ∀ i ∈ l, ¬ ReflTransGen g.Reads i current) :
    g.lookupRange current first last =
      .ok ((l.mapM g.numberAt).map (⟨·, l⟩)) := by
  classical
  have hnone :
      (l.find? fun i => decide (ReflTransGen g.Reads i current)) = none := by
    rw [List.find?_eq_none]
    intro i hi
    simpa using hback i hi
  rw [lookupRange_of_mem hg hrange hl, hnone]

/-- A rectangle that is not all on the grid has no answer but a refusal. -/
theorem lookupRange_of_notMem
    (hrange : ∀ l, indicesOfRange first last g.numCols = .ok l →
      ¬ ∀ i ∈ l, i ∈ g) :
    g.lookupRange current first last =
      .ok (.error ⟨.undefinedCell, none⟩) := by
  unfold lookupRange
  cases hl : indicesOfRange first last g.numCols with
  | error f => rfl
  | ok l =>
      have hout := (getLast?_any_iff hl).not.mpr (hrange l hl)
      dsimp only
      rw [if_pos (Bool.eq_true_of_not_eq_false hout)]

section

variable (hg : g.Closed Cell.dependencies) (hh : h.Closed Cell.dependencies)
  (hsize : h.size = g.size) (hcols : h.numCols = g.numCols)

include hg hh hsize hcols in
/-- What is told of a cell depends on its value, and on whether it leads
back. -/
theorem lookupCell_congr (hname : g.indexOf name = .ok k)
    (hback : ReflTransGen h.Reads k current ↔ ReflTransGen g.Reads k current)
    (hvalue : (h.cellAt k).value = (g.cellAt k).value) :
    h.lookupCell current name = g.lookupCell current name := by
  have hname' : h.indexOf name = .ok k := by
    rw [indexOf_congr hsize hcols, hname]
  rw [lookupCell_of_indexOf hg hname, lookupCell_of_indexOf hh hname',
    numberAt_congr hvalue]
  by_cases hk : ReflTransGen g.Reads k current
  · rw [if_pos hk, if_pos (hback.mpr hk)]
  · rw [if_neg hk, if_neg (hback.not.mpr hk)]

open Classical in
include hg hh hsize hcols in
/-- What is told of a rectangle depends on its values, and on which of its
cells lead back. -/
theorem lookupRange_congr
    (hrange : indicesOfRange first last g.numCols = .ok l)
    (hl : ∀ i ∈ l, i ∈ g)
    (hback : ∀ k ∈ l,
      (ReflTransGen h.Reads k current ↔ ReflTransGen g.Reads k current))
    (hvalue : ∀ k ∈ l, (h.cellAt k).value = (g.cellAt k).value) :
    h.lookupRange current first last = g.lookupRange current first last := by
  have hrange' : indicesOfRange first last h.numCols = .ok l := by
    rw [hcols, hrange]
  have hl' : ∀ i ∈ l, i ∈ h := fun i hi => (mem_congr hsize).mpr (hl i hi)
  have hfind : (l.find? fun i => decide (ReflTransGen h.Reads i current)) =
      l.find? fun i => decide (ReflTransGen g.Reads i current) :=
    List.find?_congr fun i hi => decide_eq_decide.mpr (hback i hi)
  have hmap : l.mapM h.numberAt = l.mapM g.numberAt :=
    mapM_numberAt_congr hvalue
  rw [lookupRange_of_mem hg hrange hl, lookupRange_of_mem hh hrange' hl',
    hfind, hmap]

end

-- =============================================================== success

/-- The cell can be read in a formula of the cell at `current`. -/
structure Readable (g : Grid) (current k : Int) : Prop where
  mem : k ∈ g
  noCycle : ¬ ReflTransGen g.Reads k current
  number : (g.cellAt k).value ≠ none

/-- A cell with a number has a value. -/
private theorem value_ne_none_of_numberAt {k : Int} {x : Float}
    (h : g.numberAt k = .ok x) :
    (g.cellAt k).value ≠ none := by
  intro hnone
  unfold numberAt at h
  rw [hnone] at h
  cases h

/-- When the numbers of several cells are found, all of them have a value. -/
private theorem value_ne_none_of_mapM {l : List Int} {values : List Float}
    (h : l.mapM g.numberAt = .ok values) :
    ∀ k ∈ l, (g.cellAt k).value ≠ none := by
  induction l generalizing values with
  | nil => nofun
  | cons i l ih =>
      rw [List.mapM_cons] at h
      obtain ⟨x, hi, h⟩ := bind_ok h
      obtain ⟨xs, hl, -⟩ := bind_ok h
      intro k hk
      rcases List.mem_cons.mp hk with rfl | hk
      · exact value_ne_none_of_numberAt hi
      · exact ih hl k hk

/-- A value is handed out only of a cell that can be read. -/
theorem lookupCell_ok (hg : g.Closed Cell.dependencies) {name : String}
    {reading : CellReading}
    (h : g.lookupCell current name = .ok (.ok reading)) :
    g.indexOf name = .ok reading.index ∧
      g.Readable current reading.index := by
  cases hname : g.indexOf name with
  | error f =>
      rw [lookupCell_of_error hname] at h
      cases h
  | ok k =>
      rw [lookupCell_of_indexOf hg hname] at h
      split at h
      · cases h
      · next hback =>
        cases hnum : g.numberAt k with
        | error e =>
            rw [hnum] at h
            cases h
        | ok x =>
            rw [hnum] at h
            cases h
            exact ⟨rfl, mem_of_indexOf hname, hback,
              value_ne_none_of_numberAt hnum⟩

/-- The values of a rectangle are handed out only if all its cells can be
read. -/
theorem lookupRange_ok (hg : g.Closed Cell.dependencies) {first last : String}
    {reading : RangeReading}
    (h : g.lookupRange current first last = .ok (.ok reading)) :
    indicesOfRange first last g.numCols = .ok reading.indices ∧
      ∀ k ∈ reading.indices, g.Readable current k := by
  by_cases hon : ∃ l, indicesOfRange first last g.numCols = .ok l ∧
      ∀ i ∈ l, i ∈ g
  · obtain ⟨l, hrange, hl⟩ := hon
    rw [lookupRange_of_mem hg hrange hl] at h
    split at h
    · cases h
    · next hnone =>
      rw [List.find?_eq_none] at hnone
      cases hvalues : l.mapM g.numberAt with
      | error e =>
          rw [hvalues] at h
          cases h
      | ok values =>
          rw [hvalues] at h
          cases h
          refine ⟨hrange, fun k hk =>
            ⟨hl k hk, ?_, value_ne_none_of_mapM hvalues k hk⟩⟩
          simpa using hnone k hk
  · rw [lookupRange_of_notMem fun l hrange hl => hon ⟨l, hrange, hl⟩] at h
    cases h

end Grid

end Worksheet
