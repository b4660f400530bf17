/-
Rectangles of cells, asked for at once and cell by cell.

A rectangle and a single cell are looked up in different ways. A cell is found
by its name, and its answer tells in one go what is wrong with it. The corners
of a rectangle are read as positions, its last index decides whether the grid
has all of it, and it is gone through twice, first for circles and then for
values. Since every position has a written name, the answer for a rectangle can
be compared with the answers for its cells, and the two go together
(`Summarizes`): no cell of a rectangle is treated in another way than it would
be by itself, and a circular cell is blamed before one without a number,
whichever of the two stands first.

The grid need not have full rows, and its edges may run in circles.
-/
import Mathlib.Data.List.Forall2
import Worksheet.Proofs.CellName.Positions
import Worksheet.Proofs.Grid.Lookup

namespace Worksheet

open Relation (ReflTransGen)

-- ====================================================== one after another

section

variable {ε α β : Type} {f : α → Except ε β} {l before after : List α} {x : α}
  {e : ε}

/-- A run that succeeds gives what each of its steps gives. -/
private theorem forall₂_of_mapM {ys : List β} (h : l.mapM f = .ok ys) :
    List.Forall₂ (fun x y => f x = .ok y) l ys := by
  induction l generalizing ys with
  | nil =>
      cases h
      exact .nil
  | cons x l ih =>
      rw [List.mapM_cons] at h
      obtain ⟨y, hx, h⟩ := bind_ok h
      obtain ⟨rest, hl, h⟩ := bind_ok h
      cases h
      exact .cons hx (ih hl)

private theorem exists_mapM (h : ∀ x ∈ l, ∃ y, f x = .ok y) :
    ∃ ys, l.mapM f = .ok ys := by
  induction l with
  | nil => exact ⟨[], rfl⟩
  | cons x l ih =>
      obtain ⟨y, hx⟩ := h x List.mem_cons_self
      obtain ⟨ys, hl⟩ := ih fun z hz => h z (List.mem_cons_of_mem _ hz)
      refine ⟨y :: ys, ?_⟩
      rw [List.mapM_cons, hx, hl]
      rfl

/-- A run ends at the first step that fails. -/
private theorem mapM_eq_error (hbefore : ∀ z ∈ before, ∃ y, f z = .ok y)
    (hx : f x = .error e) :
    (before ++ x :: after).mapM f = .error e := by
  obtain ⟨ys, hys⟩ := exists_mapM hbefore
  rw [List.mapM_append, hys, List.mapM_cons, hx]
  rfl

end

namespace Grid

variable {g : Grid} {current i : Int} {first last text : String} {p : Position}
  {cells before after : List Position}
  {answer : Except LookupError RangeReading}

-- ============================================================== positions

/-- The grid has a cell at this position: the column lies within its width, and
the index before its end. -/
def Has (g : Grid) (p : Position) : Prop :=
  (p.col : Int) < g.numCols ∧ p.index g.numCols < g.size

instance : Decidable (g.Has p) := inferInstanceAs (Decidable (_ ∧ _))

private theorem Has.mem (hp : g.Has p) : p.index g.numCols ∈ g :=
  ⟨Position.index_nonneg hp.1, hp.2⟩

private theorem indexOf_of_has (htext : Position.ofName text = .ok p)
    (hp : g.Has p) :
    g.indexOf text = .ok (p.index g.numCols) := by
  have hsize := hp.2
  unfold indexOf
  rw [Position.indexOfName_eq htext hp.1]
  exact if_neg (by omega)

/-- Both texts are names, and these are the positions of the rectangle between
them, row by row; the grid has them all. -/
def Covers (g : Grid) (first last : String) (cells : List Position) : Prop :=
  ∃ a b, Position.ofName first = .ok a ∧ Position.ofName last = .ok b ∧
    cells = positions a b ∧ ∀ p ∈ cells, g.Has p

namespace Covers

private theorem indices (h : g.Covers first last cells) :
    indicesOfRange first last g.numCols =
      .ok (cells.map (·.index g.numCols)) := by
  obtain ⟨a, b, ha, hb, rfl, hon⟩ := h
  exact indicesOfRange_eq ha hb
    (hon _ (List.mem_of_getLast? getLast?_positions)).1

private theorem mem (h : g.Covers first last cells) :
    ∀ i ∈ cells.map (·.index g.numCols), i ∈ g := by
  obtain ⟨a, b, -, -, -, hon⟩ := h
  intro i hi
  obtain ⟨p, hp, rfl⟩ := List.mem_map.mp hi
  exact (hon p hp).mem

/-- Each cell of the rectangle has a written name, which denotes it. -/
private theorem indexOf_name (h : g.Covers first last cells) (hp : p ∈ cells) :
    g.indexOf p.name = .ok (p.index g.numCols) := by
  obtain ⟨a, b, ha, hb, rfl, hon⟩ := h
  have hname := nameable_of_mem_positions (Position.nameable_of_ofName ha)
    (Position.nameable_of_ofName hb) hp
  exact indexOf_of_has (Position.ofName_name hname) (hon p hp)

/-- Where the indices of a rectangle are all on the grid, the grid covers it. -/
private theorem of_indices {l : List Int}
    (hrange : indicesOfRange first last g.numCols = .ok l)
    (hl : ∀ i ∈ l, i ∈ g) : ∃ cells, g.Covers first last cells := by
  obtain ⟨a, b, ha, hb, hcol, rfl⟩ := indicesOfRange_ok hrange
  refine ⟨positions a b, a, b, ha, hb, rfl, fun p hp => ⟨?_, ?_⟩⟩
  · exact Int.lt_of_le_of_lt (le_farCorner hp).2 hcol
  · exact (hl _ (List.mem_map_of_mem hp)).2

end Covers

-- =========================================================== single cells

/-- The cell at this position is refused as circular when it is asked for by its
name. -/
def CircularAt (g : Grid) (current : Int) (p : Position) : Prop :=
  g.lookupCell current p.name =
    .ok (.error ⟨.circularRef, some (p.index g.numCols)⟩)

private theorem numberAt_of_none (h : (g.cellAt i).value = none) :
    g.numberAt i = .error ⟨.notANumber, some i⟩ := by
  unfold numberAt
  rw [h]

private theorem exists_numberAt (h : (g.cellAt i).value ≠ none) :
    ∃ v, g.numberAt i = .ok v := by
  obtain ⟨v, hv⟩ := Option.ne_none_iff_exists'.mp h
  refine ⟨v, ?_⟩
  unfold numberAt
  rw [hv]

section

variable (hg : g.Closed Cell.dependencies)
  (hname : g.indexOf p.name = .ok (p.index g.numCols))

include hg hname

private theorem circularAt_iff :
    g.CircularAt current p ↔
      ReflTransGen g.Reads (p.index g.numCols) current := by
  classical
  unfold CircularAt
  rw [lookupCell_of_indexOf hg hname]
  constructor
  · intro h
    by_contra hnot
    rw [if_neg hnot] at h
    cases hnum : g.numberAt (p.index g.numCols) with
    | ok v =>
        rw [hnum] at h
        cases h
    | error e =>
        have hkind := kind_of_numberAt hnum
        rw [hnum] at h
        cases h
        cases hkind
  · intro hback
    rw [if_pos hback]

/-- A cell that does not lead back is worth the number that it holds. -/
private theorem lookupCell_of_noCycle
    (hback : ¬ ReflTransGen g.Reads (p.index g.numCols) current) :
    g.lookupCell current p.name =
      .ok ((g.numberAt (p.index g.numCols)).map (⟨·, p.index g.numCols⟩)) := by
  classical
  rw [lookupCell_of_indexOf hg hname, if_neg hback]

private theorem numberAt_of_lookupCell {reading : CellReading}
    (h : g.lookupCell current p.name = .ok (.ok reading)) :
    ¬ ReflTransGen g.Reads (p.index g.numCols) current ∧
      ∃ v, g.numberAt (p.index g.numCols) = .ok v := by
  obtain ⟨hindex, hreadable⟩ := lookupCell_ok hg h
  rw [Except.ok.inj (hname.symm.trans hindex)]
  exact ⟨hreadable.noCycle, exists_numberAt hreadable.number⟩

end

-- ============================================================= rectangles

/-- The answer for a rectangle goes together with the answers for its cells,
each of which is asked for by its name. -/
structure Summarizes (g : Grid) (current : Int) (cells : List Position)
    (answer : Except LookupError RangeReading) : Prop where
  /-- There are values just if every cell has one. -/
  given : (∃ reading, answer = .ok reading) ↔
    ∀ p ∈ cells, ∃ reading, g.lookupCell current p.name = .ok (.ok reading)
  /-- They are the values of the cells, with the indices of the cells, in the
  same order. -/
  values : ∀ reading, answer = .ok reading →
    reading.indices = cells.map (·.index g.numCols) ∧
    List.Forall₂ (fun p value =>
      g.lookupCell current p.name = .ok (.ok ⟨value, p.index g.numCols⟩)) cells
          reading.values
  /-- The first circular cell is blamed, whatever stands before it. -/
  circular : ∀ before p after, cells = before ++ p :: after →
      g.CircularAt current p → (∀ q ∈ before, ¬ g.CircularAt current q) →
    answer = .error ⟨.circularRef, some (p.index g.numCols)⟩
  /-- Where there is none, the first cell without a value is. -/
  missing : (∀ p ∈ cells, ¬ g.CircularAt current p) →
    ∀ before p after, cells = before ++ p :: after →
    (g.cellAt (p.index g.numCols)).value = none →
    (∀ q ∈ before, (g.cellAt (q.index g.numCols)).value ≠ none) →
    answer = .error ⟨.notANumber, some (p.index g.numCols)⟩

section

variable (hg : g.Closed Cell.dependencies) (hcover : g.Covers first last cells)

include hg hcover

/-- The first cell of a rectangle that leads back is blamed for the circle. -/
private theorem lookupRange_of_circular (hsplit : cells = before ++ p :: after)
    (hp : ReflTransGen g.Reads (p.index g.numCols) current)
    (hbefore : ∀ q ∈ before,
      ¬ ReflTransGen g.Reads (q.index g.numCols) current) :
    g.lookupRange current first last =
      .ok (.error ⟨.circularRef, some (p.index g.numCols)⟩) := by
  classical
  have hfind : ((cells.map (·.index g.numCols)).find? fun i =>
      decide (ReflTransGen g.Reads i current)) = some (p.index g.numCols) := by
    rw [List.find?_eq_some_iff_append]
    refine ⟨decide_eq_true hp, before.map (·.index g.numCols),
      after.map (·.index g.numCols), ?_, fun i hi => ?_⟩
    · rw [hsplit, List.map_append, List.map_cons]
    · obtain ⟨q, hq, rfl⟩ := List.mem_map.mp hi
      simpa using hbefore q hq
  rw [lookupRange_of_mem hg hcover.indices hcover.mem, hfind]

/-- Where no cell leads back, the cells are asked for their numbers one after
another. -/
private theorem lookupRange_of_clear
    (hclear : ∀ p ∈ cells, ¬ ReflTransGen g.Reads (p.index g.numCols) current) :
    g.lookupRange current first last =
      .ok (((cells.map (·.index g.numCols)).mapM g.numberAt).map
        (⟨·, cells.map (·.index g.numCols)⟩)) := by
  refine lookupRange_of_noCycle hg hcover.indices hcover.mem fun i hi => ?_
  obtain ⟨p, hp, rfl⟩ := List.mem_map.mp hi
  exact hclear p hp

/-- A rectangle that has values can be read cell by cell. -/
private theorem readable_of_lookupRange {reading : RangeReading}
    (h : g.lookupRange current first last = .ok (.ok reading)) :
    ∀ p ∈ cells, g.Readable current (p.index g.numCols) := by
  intro p hp
  obtain ⟨hrange, hreadable⟩ := lookupRange_ok hg h
  rw [hcover.indices] at hrange
  refine hreadable _ ?_
  rw [← Except.ok.inj hrange]
  exact List.mem_map_of_mem hp

/-- The values of a rectangle are those of its cells. -/
private theorem forall₂_of_lookupRange {reading : RangeReading}
    (h : g.lookupRange current first last = .ok (.ok reading)) :
    reading.indices = cells.map (·.index g.numCols) ∧
      List.Forall₂ (fun p value =>
        g.lookupCell current p.name = .ok (.ok ⟨value, p.index g.numCols⟩))
        cells reading.values := by
  have hreadable := readable_of_lookupRange hg hcover h
  have hrun := lookupRange_of_clear hg hcover fun p hp =>
    (hreadable p hp).noCycle
  rw [h] at hrun
  cases hnums : (cells.map (·.index g.numCols)).mapM g.numberAt with
  | error e =>
      rw [hnums] at hrun
      cases hrun
  | ok values =>
      rw [hnums] at hrun
      have hreading : reading = ⟨values, cells.map (·.index g.numCols)⟩ :=
        Except.ok.inj (Except.ok.inj hrun)
      rw [hreading]
      refine ⟨rfl, ?_⟩
      have hall := List.forall₂_map_left_iff.mp (forall₂_of_mapM hnums)
      refine List.forall₂_iff_get.mpr ⟨hall.length_eq, fun k hk hk' => ?_⟩
      have hmem := List.get_mem cells ⟨k, hk⟩
      rw [lookupCell_of_noCycle hg (hcover.indexOf_name hmem)
        (hreadable _ hmem).noCycle, (List.forall₂_iff_get.mp hall).2 k hk hk']
      rfl

/-- A rectangle has values just if all its cells have. -/
theorem lookupRange_ok_iff :
    (∃ reading, g.lookupRange current first last = .ok (.ok reading)) ↔
      ∀ p ∈ cells, ∃ reading, g.lookupCell current p.name =
        .ok (.ok reading) := by
  constructor
  · rintro ⟨reading, h⟩ p hp
    have hp' := readable_of_lookupRange hg hcover h p hp
    obtain ⟨v, hv⟩ := exists_numberAt hp'.number
    refine ⟨⟨v, p.index g.numCols⟩, ?_⟩
    rw [lookupCell_of_noCycle hg (hcover.indexOf_name hp) hp'.noCycle, hv]
    rfl
  · intro h
    have hcell : ∀ p ∈ cells, ¬ ReflTransGen g.Reads (p.index g.numCols)
      current ∧ ∃ v, g.numberAt (p.index g.numCols) = .ok v := fun p hp => by
      obtain ⟨reading, hreading⟩ := h p hp
      exact numberAt_of_lookupCell hg (hcover.indexOf_name hp) hreading
    have hnums : ∀ i ∈ cells.map (·.index g.numCols),
        ∃ v, g.numberAt i = .ok v := fun i hi => by
      obtain ⟨p, hp, rfl⟩ := List.mem_map.mp hi
      exact (hcell p hp).2
    obtain ⟨values, hvalues⟩ := exists_mapM hnums
    refine ⟨⟨values, cells.map (·.index g.numCols)⟩, ?_⟩
    rw [lookupRange_of_clear hg hcover fun p hp => (hcell p hp).1, hvalues]
    rfl

/-- The answer for a rectangle that the grid covers goes together with those for
its cells. -/
theorem summarizes_of_covers
    (hanswer : g.lookupRange current first last = .ok answer) :
    g.Summarizes current cells answer := by
  have hcircular : ∀ p ∈ cells, (g.CircularAt current p ↔
      ReflTransGen g.Reads (p.index g.numCols) current) := fun p hp =>
    circularAt_iff hg (hcover.indexOf_name hp)
  refine ⟨?_, ?_, ?_, ?_⟩
  · rw [← lookupRange_ok_iff hg hcover, hanswer]
    simp
  · rintro reading rfl
    exact forall₂_of_lookupRange hg hcover hanswer
  · intro before p after hsplit hp hbefore
    have hmem : p ∈ cells := by
      rw [hsplit]
      exact List.mem_append_right _ List.mem_cons_self
    have hmem' : ∀ q ∈ before, q ∈ cells := fun q hq => by
      rw [hsplit]
      exact List.mem_append_left _ hq
    have hrun := lookupRange_of_circular hg hcover hsplit
      ((hcircular p hmem).mp hp)
      fun q hq => (hcircular q (hmem' q hq)).not.mp (hbefore q hq)
    exact Except.ok.inj (hanswer.symm.trans hrun)
  · intro hclear before p after hsplit hp hbefore
    have hrun := lookupRange_of_clear hg hcover fun q hq =>
      (hcircular q hq).not.mp (hclear q hq)
    have hnums : (cells.map (·.index g.numCols)).mapM g.numberAt =
        .error ⟨.notANumber, some (p.index g.numCols)⟩ := by
      rw [hsplit, List.map_append, List.map_cons]
      refine mapM_eq_error (fun i hi => ?_) (numberAt_of_none hp)
      obtain ⟨q, hq, rfl⟩ := List.mem_map.mp hi
      exact exists_numberAt (hbefore q hq)
    rw [hnums] at hrun
    exact Except.ok.inj (hanswer.symm.trans hrun)

/-- A rectangle that the grid covers is answered, and not as one that it has
not. -/
private theorem defined_of_covers :
    ∃ answer, g.lookupRange current first last = .ok answer ∧
      answer ≠ .error ⟨.undefinedCell, none⟩ := by
  classical
  refine ⟨_, lookupRange_of_mem hg hcover.indices hcover.mem, ?_⟩
  split
  · rintro ⟨⟩
  · cases hnums : (cells.map (·.index g.numCols)).mapM g.numberAt with
    | ok values => rintro ⟨⟩
    | error e =>
        have hkind := kind_of_mapM_numberAt hnums
        rintro ⟨⟩
        cases hkind

end

/-- A request for a rectangle never fails to be answered. It is refused as
undefined, with no cell to blame, just if one of the names is none or the grid
has not all of the rectangle, which the last index alone decides; otherwise the
answer goes together with the answers for the cells. -/
theorem lookupRange_cellwise (hg : g.Closed Cell.dependencies) (current : Int)
    (first last : String) :
    ∃ answer, g.lookupRange current first last = .ok answer ∧
      (answer = .error ⟨.undefinedCell, none⟩ ↔
        ¬ ∃ cells, g.Covers first last cells) ∧
      (∀ cells, g.Covers first last cells → g.Summarizes current cells answer) ∧
      ∀ indices i, indicesOfRange first last g.numCols = .ok indices →
        indices.getLast? = some i →
        ((∃ k ∈ indices, (g.size : Int) ≤ k) ↔ (g.size : Int) ≤ i) := by
  by_cases hcover : ∃ cells, g.Covers first last cells
  · obtain ⟨cells, hcells⟩ := hcover
    obtain ⟨answer, hanswer, hdefined⟩ :=
      @defined_of_covers g current _ _ _ hg hcells
    exact ⟨answer, hanswer, iff_of_false hdefined
      (fun hnone => hnone ⟨cells, hcells⟩),
      fun _ h => summarizes_of_covers hg h hanswer,
        fun _ _ => exists_outside_iff⟩
  · have hanswer : g.lookupRange current first last =
      .ok (.error ⟨.undefinedCell, none⟩) :=
      lookupRange_of_notMem fun l hrange hl =>
        hcover (Covers.of_indices hrange hl)
    exact ⟨_, hanswer, iff_of_true rfl hcover, fun cells h => absurd
      ⟨cells, h⟩ hcover,
      fun _ _ => exists_outside_iff⟩

/-- Two columns with three cells in the first and two in the second. The second
cell holds a text, and the first of the next row reads the last cell of all. -/
def ragged : Grid :=
  ⟨#[⟨0, "5", some 5, [], []⟩, ⟨1, "text", none, [], []⟩,
    ⟨2, "=A2", some 7, [4], []⟩,
    ⟨3, "3", some 3, [], []⟩, ⟨4, "7", some 7, [], [2]⟩], 2⟩

/-- Seen from the last cell, the one that reads it is circular. The rectangle is
refused because of it, though a cell without a value stands before it; the
rectangle that would end past the last cell is undefined. -/
theorem lookupRange_cellwise_ragged :
    ragged.lookupRange 4 "b01" " A0" = .ok (.error ⟨.circularRef, some 2⟩) ∧
      ragged.lookupRange 4 "A1" "B2" = .ok (.error ⟨.undefinedCell, none⟩) := by
  have hg : ragged.Closed Cell.dependencies := closed_of_cells (by decide)
  constructor
  · obtain ⟨answer, hanswer, -, hsummarizes, -⟩ :=
      lookupRange_cellwise hg 4 "b01" " A0"
    have hcover : ragged.Covers "b01" " A0" [⟨0, 0⟩, ⟨0, 1⟩, ⟨1, 0⟩, ⟨1, 1⟩] :=
      ⟨⟨1, 1⟩, ⟨0, 0⟩, by
        decide +kernel, by decide +kernel, by decide, by decide⟩
    have hcircular : ∀ q ∈ [(⟨0, 0⟩ : Position), ⟨0, 1⟩, ⟨1, 0⟩, ⟨1, 1⟩],
        (ragged.CircularAt 4 q ↔ ReflTransGen ragged.Reads (q.index 2) 4) :=
          fun q hq =>
      circularAt_iff hg (hcover.indexOf_name hq)
    have hback : ReflTransGen ragged.Reads 2 4 :=
      .single (reads_iff.mpr (by decide))
    have hclear : ∀ q ∈ [(⟨0, 0⟩ : Position), ⟨0, 1⟩],
        ¬ ragged.CircularAt 4 q := by
      intro q hq hrefused
      -- the first two cells read nothing
      obtain rfl | rfl : q = ⟨0, 0⟩ ∨ q = ⟨0, 1⟩ := by simpa using hq
      · rcases ((hcircular _ (by simp)).mp hrefused).cases_head
          with heq | ⟨k, hstep, -⟩
        · cases heq
        · cases (reads_iff.mp hstep).2
      · rcases ((hcircular _ (by simp)).mp hrefused).cases_head
          with heq | ⟨k, hstep, -⟩
        · cases heq
        · cases (reads_iff.mp hstep).2
    rw [hanswer, (hsummarizes _ hcover).circular [⟨0, 0⟩, ⟨0, 1⟩] ⟨1, 0⟩
      [⟨1, 1⟩] rfl ((hcircular _ (by simp)).mpr hback) hclear]
    rfl
  · obtain ⟨answer, hanswer, hundefined, -, -⟩ :=
      lookupRange_cellwise hg 4 "A1" "B2"
    have hnot : ¬ ∃ cells, ragged.Covers "A1" "B2" cells := by
      rintro ⟨cells, a, b, ha, hb, rfl, hon⟩
      have ha' : Position.ofName "A1" = .ok ⟨1, 0⟩ := by decide +kernel
      have hb' : Position.ofName "B2" = .ok ⟨2, 1⟩ := by decide +kernel
      cases ha.symm.trans ha'
      cases hb.symm.trans hb'
      exact absurd (hon ⟨2, 1⟩ (by decide)) (by decide)
    rw [hanswer, hundefined.mpr hnot]

end Grid

end Worksheet
