/-
The cells of a grid, read and written where nothing can fail.

An index is on the grid when it counts a cell from the start. There every
read finds a cell and every write has a slot, so the operations of a grid
that answer faults have plain counterparts: `cellAt` for reading, `set`
for putting a cell in, `patch` for bringing dependents up to date and
`rewire` for a whole commit. Each is proved equal to the operation that
it stands for, and each says what it does to the cell at every index.
Later proofs use these equations and open none of the operations again.
-/
import Mathlib.Data.List.Nodup
import Worksheet.Grid.Walk
import Worksheet.Grid.Edges

namespace Worksheet

/-- A computation that succeeds has succeeded in each of its steps. -/
theorem bind_ok {ε α β : Type} {x : Except ε α} {f : α → Except ε β} {b : β}
    (h : x >>= f = .ok b) : ∃ a, x = .ok a ∧ f a = .ok b := by
  cases x with
  | error e => cases h
  | ok a => exact ⟨a, rfl, h⟩

/-- What can be computed from an answer shows that there is one. -/
theorem exists_ok_of_map {ε δ α β : Type} {x : Except ε (Except δ α)}
    {f : α → β} {b : β} (h : (x.toOption.bind Except.toOption).map f = some b) :
    ∃ a, x = .ok (.ok a) ∧ f a = b := by
  rcases x with e | (d | a)
  · cases h
  · cases h
  · exact ⟨a, rfl, Option.some.inj h⟩

/-- Where each step succeeds, all of them do, one after another. -/
theorem mapM_eq_ok {ε α β : Type} {f : α → Except ε β} {result : α → β}
    {l : List α}
    (h : ∀ x ∈ l, f x = .ok (result x)) : l.mapM f = .ok (l.map result) := by
  induction l with
  | nil => rfl
  | cons x l ih =>
      rw [List.mapM_cons, h x List.mem_cons_self,
        ih fun y hy => h y (List.mem_cons_of_mem _ hy)]
      rfl

/-- Where repetitions are taken out, none is left. -/
theorem nodup_eraseDups : ∀ {l : List Int}, l.eraseDups.Nodup := by
  intro l
  induction hn : l.length using Nat.strongRecOn generalizing l with
  | ind n ih =>
    cases l with
    | nil => exact .nil
    | cons a l =>
        rw [List.eraseDups_cons]
        have hlen : (l.filter fun b => !b == a).length < n := by
          have := List.length_filter_le (fun b => !b == a) l
          rw [List.length_cons] at hn
          omega
        refine List.nodup_cons.mpr ⟨?_, ih _ hlen rfl⟩
        rw [List.mem_eraseDups]
        simp

-- ================================================================ patches

namespace EdgeDiff

variable {d : EdgeDiff} {reader i k : Int} {c : Cell}

/-- A patch changes nothing but the dependents. -/
theorem patch_eq : d.patch reader i c =
    { c with dependents := (d.patch reader i c).dependents } := by
  unfold patch Cell.withDependent Cell.withoutDependent
  dsimp only
  split <;> split <;> (try split) <;> rfl

@[simp] theorem patch_index : (d.patch reader i c).index = c.index := by
  rw [patch_eq]

@[simp] theorem patch_dependencies :
    (d.patch reader i c).dependencies = c.dependencies := by
  rw [patch_eq]

/-- A cell outside the difference stays as it is. -/
theorem patch_of_notMem (hs : i ∉ d.stale) (hf : i ∉ d.fresh) :
    d.patch reader i c = c := by
  have hs' : d.stale.contains i = false := by simpa using hs
  have hf' : d.fresh.contains i = false := by simpa using hf
  unfold patch
  rw [hs', hf']
  rfl

theorem mem_withDependent : k ∈ (c.withDependent i).dependents ↔
    k ∈ c.dependents ∨ k = i := by
  unfold Cell.withDependent
  split
  · next h =>
    have hmem : i ∈ c.dependents := by simpa using h
    exact ⟨Or.inl, fun hk => hk.elim id fun heq => heq ▸ hmem⟩
  · simp

theorem mem_withoutDependent :
    k ∈ (c.withoutDependent i).dependents ↔ k ∈ c.dependents ∧ k ≠ i := by
  simp [Cell.withoutDependent]

/-- After a patch the reader is a dependent where it is fresh, and no
longer one where it is only stale; all other dependents stay. -/
theorem mem_patch : k ∈ (d.patch reader i c).dependents ↔
    (k ∈ c.dependents ∧ ¬(k = reader ∧ i ∈ d.stale)) ∨
      (k = reader ∧ i ∈ d.fresh) := by
  unfold patch
  by_cases hs : i ∈ d.stale <;> by_cases hf : i ∈ d.fresh <;>
    simp only [List.contains_iff_mem, hs, hf, if_true, if_false,
      mem_withDependent, mem_withoutDependent] <;> tauto

/-- Where the reader was known as one to begin with, it is known as one
afterwards as well. -/
theorem mem_patch_between {before after : List Int}
    (h : reader ∈ c.dependents ↔ i ∈ before) :
    k ∈ ((between before after).patch reader i c).dependents ↔
      if k = reader then i ∈ after else k ∈ c.dependents := by
  rw [mem_patch, mem_stale, mem_fresh]
  by_cases hk : k = reader
  · subst hk
    rw [if_pos rfl, h]
    by_cases hbefore : i ∈ before <;> by_cases hafter : i ∈ after <;>
      simp [hbefore, hafter]
  · simp [hk]

theorem nodup_withoutDependent (h : c.dependents.Nodup) :
    (c.withoutDependent k).dependents.Nodup := h.filter _

theorem nodup_withDependent (h : c.dependents.Nodup) :
    (c.withDependent k).dependents.Nodup := by
  unfold Cell.withDependent
  split
  · exact h
  · next hnot =>
    refine List.nodup_append.mpr ⟨h, List.nodup_singleton _, ?_⟩
    intro a ha b hb heq
    rw [List.mem_singleton] at hb
    exact hnot (by simpa [← hb, ← heq] using ha)

/-- A patch repeats no dependent. -/
theorem nodup_patch (h : c.dependents.Nodup) :
    (d.patch reader i c).dependents.Nodup := by
  unfold patch
  dsimp only
  split
  · split
    · exact nodup_withDependent (nodup_withoutDependent h)
    · exact nodup_withDependent h
  · split
    · exact nodup_withoutDependent h
    · exact h

end EdgeDiff

namespace Grid

variable {g h : Grid} {i k : Int} {c old new : Cell}

-- =========================================================== being on it

/-- An index is on a grid when it counts one of the cells from the start. -/
instance : Membership Int Grid := ⟨fun g i => 0 ≤ i ∧ i < g.size⟩

theorem mem_iff : i ∈ g ↔ 0 ≤ i ∧ i < g.size := Iff.rfl

/-- Counted from the start, the cells are on the grid. -/
theorem natCast_mem {k : Nat} : (k : Int) ∈ g ↔ k < g.size := by
  rw [mem_iff]
  omega

theorem mem_congr (hsize : h.size = g.size) : i ∈ h ↔ i ∈ g := by
  rw [mem_iff, mem_iff, hsize]

instance : Decidable (i ∈ g) := inferInstanceAs (Decidable (_ ∧ _))

/-- The cell at an index; where there is none, a blank one stands in. -/
def cellAt (g : Grid) (i : Int) : Cell := (g.cell? i).getD (.blank i)

theorem cell?_of_mem (hi : i ∈ g) : g.cell? i = some (g.cellAt i) := by
  rw [cellAt, cell?, place?_of_nonneg hi.1 hi.2]
  rfl

/-- Reading at an index on the grid finds its cell. -/
theorem cell_of_mem (hi : i ∈ g) : g.cell i = .ok (g.cellAt i) := by
  rw [cell, cell?_of_mem hi]

/-- What is read at an index is the cell there, from whichever end the index
counts. -/
theorem cellAt_of_cell (h : g.cell i = .ok c) : g.cellAt i = c := by
  rw [cellAt, cell?_of_cell h]
  rfl

/-- A cell that is read stands on the grid, and the index counts to it from one
of the ends. -/
theorem exists_mem_of_cell (h : g.cell i = .ok c) :
    ∃ k ∈ g, g.cellAt k = c ∧ (i = k ∨ i = k - g.size) := by
  obtain ⟨place, hplace, rfl⟩ := Option.map_eq_some_iff.mp (cell?_of_cell h)
  have hmem : ((place : Nat) : Int) ∈ g := natCast_mem.mpr place.isLt
  have hat : g.cellAt place = g.cells[place] := by
    rw [cellAt, cell?, place?_eq_some_iff.mpr (Or.inl rfl)]
    rfl
  exact ⟨place, hmem, hat, place?_eq_some_iff.mp hplace⟩

theorem toNat_lt (hi : i ∈ g) : i.toNat < g.cells.size := by
  have hlt : i < (g.cells.size : Int) := hi.2
  have := hi.1
  omega

theorem getElem?_of_mem (hi : i ∈ g) :
    g.cells[i.toNat]? = some (g.cellAt i) := by
  rw [cellAt, cell?, place?_of_nonneg hi.1 hi.2]
  exact Array.getElem?_eq_getElem (toNat_lt hi)

/-- The cells of a grid are those that stand at its indices. -/
theorem mem_cells_iff : c ∈ g.cells ↔ ∃ i ∈ g, g.cellAt i = c := by
  constructor
  · intro hc
    obtain ⟨k, hk, hget⟩ := Array.mem_iff_getElem.mp hc
    have hmem : (k : Int) ∈ g := natCast_mem.mpr hk
    refine ⟨k, hmem, Option.some.inj ?_⟩
    rw [← getElem?_of_mem hmem, Int.toNat_natCast, Array.getElem?_eq_getElem hk,
      hget]
  · rintro ⟨i, hi, rfl⟩
    exact Array.mem_of_getElem? (getElem?_of_mem hi)

/-- The cells one after another are those at the indices from the start on. -/
theorem toList_cells :
    g.cells.toList = (List.range g.size).map fun k : Nat => g.cellAt k := by
  refine List.ext_getElem? fun k => ?_
  rw [Array.getElem?_toList, List.getElem?_map]
  by_cases hk : k < g.cells.size
  · have hmem : (k : Int) ∈ g := natCast_mem.mpr hk
    rw [List.getElem?_range hk, Option.map_some, ← getElem?_of_mem hmem,
      Int.toNat_natCast]
  · rw [Array.getElem?_eq_none (Nat.not_lt.mp hk),
      List.getElem?_eq_none (by simpa using hk)]
    rfl

/-- Two grids of one shape with the same cell at every index are the same. -/
theorem ext_cellAt (hsize : h.size = g.size) (hcols : h.numCols = g.numCols)
    (hcells : ∀ i ∈ g, h.cellAt i = g.cellAt i) : h = g := by
  have hcell : h.cells = g.cells := by
    refine Array.ext hsize fun k hk hk' => Option.some.inj ?_
    have hmem : (k : Int) ∈ g := natCast_mem.mpr hk'
    have hmem' : (k : Int) ∈ h := natCast_mem.mpr hk
    have hget := getElem?_of_mem hmem
    have hget' := getElem?_of_mem hmem'
    rw [Int.toNat_natCast] at hget hget'
    rw [← Array.getElem?_eq_getElem hk, ← Array.getElem?_eq_getElem hk',
      hget, hget', hcells k hmem]
  cases g
  cases h
  simp only at hcell hcols
  rw [hcell, hcols]

theorem edgesAt_dependencies :
    g.edgesAt Cell.dependencies i = (g.cellAt i).dependencies := by
  unfold edgesAt cellAt
  cases g.cell? i <;> rfl

theorem edgesAt_dependents :
    g.edgesAt Cell.dependents i = (g.cellAt i).dependents := by
  unfold edgesAt cellAt
  cases g.cell? i <;> rfl

-- ============================================================ putting in

/-- The grid with a cell put where its own index says. -/
def set (g : Grid) (c : Cell) : Grid :=
  { g with cells := g.cells.setIfInBounds c.index.toNat c }

@[simp] theorem size_set : (g.set c).size = g.size := Array.size_setIfInBounds

@[simp] theorem numCols_set : (g.set c).numCols = g.numCols := rfl

@[simp] theorem mem_set : i ∈ g.set c ↔ i ∈ g := mem_congr size_set

/-- The cell that is put in stands at its own index, and the others stay. -/
theorem cellAt_set (hc : c.index ∈ g) (hi : i ∈ g) :
    (g.set c).cellAt i = if i = c.index then c else g.cellAt i := by
  have hget := getElem?_of_mem (mem_set.mpr hi : i ∈ g.set c)
  have hnat : c.index.toNat = i.toNat ↔ i = c.index := by
    have := hc.1
    have := hi.1
    omega
  unfold set at hget
  rw [Array.getElem?_setIfInBounds, getElem?_of_mem hi] at hget
  refine Option.some.inj (hget.symm.trans ?_)
  by_cases heq : i = c.index
  · rw [if_pos (hnat.mpr heq), if_pos (toNat_lt hc), if_pos heq]
  · rw [if_neg (hnat.not.mpr heq), if_neg heq]

theorem cellAt_set_self (hc : c.index ∈ g) : (g.set c).cellAt c.index = c := by
  rw [cellAt_set hc hc, if_pos rfl]

theorem cellAt_set_ne (hc : c.index ∈ g) (hi : i ∈ g) (hne : i ≠ c.index) :
    (g.set c).cellAt i = g.cellAt i := by
  rw [cellAt_set hc hi, if_neg hne]

/-- On the grid there is a slot for every cell. -/
theorem put_of_mem (hc : c.index ∈ g) : g.put c = .ok (g.set c) := by
  rw [put, place?_of_nonneg hc.1 hc.2]
  simp only [set, Array.setIfInBounds, dif_pos (toNat_lt hc)]

theorem replace_of_mem : ∀ {cs : List Cell} {g : Grid},
    (∀ c ∈ cs, c.index ∈ g) → g.replace cs = .ok (cs.foldl set g) := by
  intro cs
  induction cs with
  | nil => intro g _; rfl
  | cons c cs ih =>
      intro g hcs
      have hrest : ∀ c' ∈ cs, c'.index ∈ g.set c := fun c' hc' =>
        mem_set.mpr (hcs c' (List.mem_cons_of_mem _ hc'))
      have hput := put_of_mem (hcs c List.mem_cons_self)
      rw [replace, List.foldlM_cons, hput, List.foldl_cons]
      exact ih hrest

/-- Putting in one cell for each of some indices changes the cells at these. -/
theorem foldl_set_map {f : Int → Cell} : ∀ {l : List Int} {g : Grid},
    (∀ i ∈ l, i ∈ g ∧ (f i).index = i) →
      ((l.map f).foldl set g).size = g.size ∧
        ((l.map f).foldl set g).numCols = g.numCols ∧
      ∀ k ∈ g, ((l.map f).foldl set g).cellAt k = if k ∈ l then f k
        else g.cellAt k := by
  intro l
  induction l with
  | nil => intro g _; exact ⟨rfl, rfl, fun k _ => by simp⟩
  | cons i l ih =>
      intro g hl
      obtain ⟨hi, hindex⟩ := hl i List.mem_cons_self
      have hset : (f i).index ∈ g := by rwa [hindex]
      obtain ⟨hsize, hcols, hcell⟩ := ih (g := g.set (f i)) fun k hk =>
        ⟨mem_set.mpr (hl k (List.mem_cons_of_mem _ hk)).1,
          (hl k (List.mem_cons_of_mem _ hk)).2⟩
      refine ⟨hsize.trans size_set, hcols, fun k hk => ?_⟩
      rw [List.map_cons, List.foldl_cons, hcell k (mem_set.mpr hk),
        cellAt_set hset hk, hindex]
      by_cases hki : k = i
      · subst hki
        simp
      · simp [hki]

-- ============================================================== patching

/-- Cells stand at their own index. -/
def Indexed (g : Grid) : Prop := ∀ i ∈ g, (g.cellAt i).index = i

/-- It is enough to look at the cells as they stand in the grid. -/
theorem indexed_of_cells (h : ∀ k : Fin g.cells.size, g.cells[k].index = k) :
    g.Indexed := by
  intro i hi
  have hget := getElem?_of_mem hi
  rw [Array.getElem?_eq_getElem (toNat_lt hi)] at hget
  rw [← Option.some.inj hget]
  exact (h ⟨i.toNat, toNat_lt hi⟩).trans (Int.toNat_of_nonneg hi.1)

theorem Indexed.set (hg : g.Indexed) (hc : c.index ∈ g) :
    (g.set c).Indexed := by
  intro i hi
  have hi' := mem_set.mp hi
  by_cases heq : i = c.index
  · rw [heq, cellAt_set_self hc]
  · rw [cellAt_set_ne hc hi' heq, hg i hi']

/-- The grid with a difference applied to the dependents of all its cells. -/
def patch (g : Grid) (reader : Int) (d : EdgeDiff) : Grid :=
  { g with cells := g.cells.mapIdx fun k c => d.patch reader k c }

section

variable {reader : Int} {d : EdgeDiff}

@[simp] theorem size_patch : (g.patch reader d).size = g.size :=
    Array.size_mapIdx

@[simp] theorem mem_patch : i ∈ g.patch reader d ↔ i ∈ g := mem_congr size_patch

theorem cellAt_patch (hi : i ∈ g) :
    (g.patch reader d).cellAt i = d.patch reader i (g.cellAt i) := by
  have hget := getElem?_of_mem (mem_patch.mpr hi : i ∈ g.patch reader d)
  unfold patch at hget
  rw [Array.getElem?_mapIdx, getElem?_of_mem hi, Int.toNat_of_nonneg hi.1]
    at hget
  exact (Option.some.inj hget).symm

theorem Indexed.patch (hg : g.Indexed) : (g.patch reader d).Indexed := by
  intro k hk
  have hk' := mem_patch.mp hk
  rw [cellAt_patch hk', EdgeDiff.patch_index, hg k hk']

/-- Reading cells one after another, each of them on the grid, finds them
all. -/
theorem mapM_cell {f : Int → Cell → Cell} {l : List Int} (hl : ∀ i ∈ l, i ∈ g) :
    (l.mapM fun i => do return f i (← g.cell i)) =
      (Except.ok (l.map fun i => f i (g.cellAt i)) : Except Fault _) := by
  refine mapM_eq_ok fun i hi => ?_
  rw [cell_of_mem (hl i hi)]
  rfl

/-- A difference between lists of indices on the grid can be applied. -/
theorem applyDiff_of_mem (hg : g.Indexed) (hs : ∀ i ∈ d.stale, i ∈ g)
    (hf : ∀ i ∈ d.fresh, i ∈ g) :
    g.applyDiff reader d = .ok (g.patch reader d) := by
  have hmem : ∀ i ∈ (d.stale ++ d.fresh).eraseDups, i ∈ g := by
    intro i hi
    rw [List.mem_eraseDups, List.mem_append] at hi
    exact hi.elim (hs i) (hf i)
  have hindex : ∀ i ∈ (d.stale ++ d.fresh).eraseDups,
      i ∈ g ∧ (d.patch reader i (g.cellAt i)).index = i := fun i hi =>
    ⟨hmem i hi, by rw [EdgeDiff.patch_index, hg i (hmem i hi)]⟩
  obtain ⟨hsize, hcols, hcell⟩ := foldl_set_map hindex
  unfold applyDiff
  rw [mapM_cell hmem]
  show g.replace _ = _
  rw [replace_of_mem]
  · congr 1
    refine ext_cellAt (hsize.trans size_patch.symm) hcols fun k hk => ?_
    have hk' := mem_patch.mp hk
    rw [hcell k hk', cellAt_patch hk']
    split
    · rfl
    · next hnot =>
      rw [List.mem_eraseDups, List.mem_append, not_or] at hnot
      rw [EdgeDiff.patch_of_notMem hnot.1 hnot.2]
  · intro c hc
    obtain ⟨i, hi, rfl⟩ := List.mem_map.mp hc
    rw [(hindex i hi).2]
    exact hmem i hi

end

-- ============================================================ committing

/-- The grid with a cell in a new state and both directions of its edges brought
in line. -/
def rewire (g : Grid) (old new : Cell) : Grid :=
  (g.patch new.index (.between old.dependencies new.dependencies)).set new

@[simp] theorem size_rewire : (g.rewire old new).size = g.size := by
  rw [rewire, size_set, size_patch]

@[simp] theorem numCols_rewire : (g.rewire old new).numCols = g.numCols := rfl

@[simp] theorem mem_rewire : i ∈ g.rewire old new ↔ i ∈ g := by
  rw [rewire, mem_set, mem_patch]

/-- The cell in its new state has the very dependents that this state names. -/
theorem cellAt_rewire_self (hnew : new.index ∈ g) :
    (g.rewire old new).cellAt new.index = new :=
  cellAt_set_self (mem_patch.mpr hnew)

theorem cellAt_rewire_ne (hnew : new.index ∈ g) (hi : i ∈ g)
    (hne : i ≠ new.index) :
    (g.rewire old new).cellAt i =
      (EdgeDiff.between old.dependencies new.dependencies).patch new.index i
        (g.cellAt i) := by
  rw [rewire, cellAt_set_ne (mem_patch.mpr hnew) (mem_patch.mpr hi) hne,
    cellAt_patch hi]

/-- A commit whose edges all stay on the grid can be carried out. -/
theorem commit_of_mem (hg : g.Indexed) (hnew : new.index ∈ g)
    (hold : ∀ i ∈ old.dependencies, i ∈ g)
    (hdeps : ∀ i ∈ new.dependencies, i ∈ g) :
    g.commit old new = .ok (g.rewire old new) := by
  unfold commit
  rw [applyDiff_of_mem hg (fun i hi => hold i (EdgeDiff.mem_stale.mp hi).1)
    (fun i hi => hdeps i (EdgeDiff.mem_fresh.mp hi).1)]
  exact replace_of_mem fun c hc => by
    rw [List.mem_singleton.mp hc]
    exact mem_patch.mpr hnew

/-- A commit that keeps the dependencies only puts the cell in. -/
theorem rewire_of_dependencies_eq (hnew : new.index ∈ g)
    (hdeps : new.dependencies = old.dependencies) :
    g.rewire old new = g.set new := by
  refine ext_cellAt (size_rewire.trans size_set.symm) rfl fun i hi => ?_
  have hi' := mem_set.mp hi
  by_cases heq : i = new.index
  · rw [heq, cellAt_rewire_self hnew, cellAt_set_self hnew]
  · have hs : i ∉ (EdgeDiff.between old.dependencies
      new.dependencies).stale := by
      rw [EdgeDiff.mem_stale, hdeps]
      exact fun h => h.2 h.1
    have hf : i ∉ (EdgeDiff.between old.dependencies
        new.dependencies).fresh := by
      rw [EdgeDiff.mem_fresh, hdeps]
      exact fun h => h.2 h.1
    rw [cellAt_rewire_ne hnew hi' heq, cellAt_set_ne hnew hi' heq,
      EdgeDiff.patch_of_notMem hs hf]

/-- A commit of the cell that stands there already changes nothing. -/
theorem rewire_cellAt (hi : i ∈ g) (hindex : (g.cellAt i).index = i) :
    g.rewire (g.cellAt i) (g.cellAt i) = g := by
  have hmem : (g.cellAt i).index ∈ g := hindex.symm ▸ hi
  rw [rewire_of_dependencies_eq hmem rfl]
  refine ext_cellAt size_set rfl fun k hk => ?_
  rw [cellAt_set hmem hk, hindex]
  split
  · next heq => rw [heq]
  · rfl

end Grid

end Worksheet
