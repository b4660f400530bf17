/-
Differences of dependencies, applied to the cells that they are about.

When a cell reads others than before, the difference tells which cells lose it
as a dependent and which gain it. A patch takes it out of the list first and
puts it in afterwards. Taking it out forgets every place where it stood, so a
second patch of the same kind finds nothing more to do (`patch_patch`), also
where a cell is to lose the reader and to gain it.

Apart from the reader a patch leaves a cell alone (`withoutDependent_patch`):
the other dependents stay in their order, and so does all else. Which cells know
the reader afterwards is therefore the only thing that a difference decides.
-/
import Worksheet.Proofs.Grid.Cells

namespace Worksheet

variable {c : Cell} {d : EdgeDiff} {reader i : Int}

-- ============================================================ one reader

namespace Cell

private theorem withDependent_of_mem (h : reader ∈ c.dependents) :
    c.withDependent reader = c := by
  rw [withDependent, if_pos (List.contains_iff_mem.mpr h)]

/-- Taking a reader out forgets whether it was put in. -/
private theorem withoutDependent_withDependent :
    (c.withDependent reader).withoutDependent reader =
      c.withoutDependent reader := by
  by_cases h : reader ∈ c.dependents
  · rw [withDependent_of_mem h]
  · rw [withDependent, if_neg (by simpa using h)]
    simp [withoutDependent]

private theorem withoutDependent_withoutDependent :
    (c.withoutDependent reader).withoutDependent reader =
      c.withoutDependent reader := by
  simp [withoutDependent, List.filter_filter]

private theorem withDependent_withDependent :
    (c.withDependent reader).withDependent reader = c.withDependent reader :=
  withDependent_of_mem (EdgeDiff.mem_withDependent.mpr (Or.inr rfl))

end Cell

namespace EdgeDiff

/-- The reader aside, a patch changes nothing. -/
theorem withoutDependent_patch :
    (d.patch reader i c).withoutDependent reader =
      c.withoutDependent reader := by
  unfold patch
  dsimp only
  split <;> split <;>
    simp only [Cell.withoutDependent_withDependent,
      Cell.withoutDependent_withoutDependent]

/-- A patch that was made once has nothing left to do. -/
theorem patch_patch :
    d.patch reader i (d.patch reader i c) = d.patch reader i c := by
  unfold patch
  dsimp only
  split
  · split
    · rw [Cell.withoutDependent_withDependent,
        Cell.withoutDependent_withoutDependent]
    · rw [Cell.withDependent_withDependent]
  · split
    · rw [Cell.withoutDependent_withoutDependent]
    · rfl

end EdgeDiff

namespace Grid

variable {g h : Grid} {old new : List Int} {k : Int}

-- ============================================================== one grid

/-- The grids differ in the cells that know the reader as a dependent: these are
the new ones where they were the old ones. -/
structure Moved (g h : Grid) (reader : Int) (old new : List Int) : Prop where
  size : h.size = g.size
  numCols : h.numCols = g.numCols
  /-- Just the new ones know the reader. -/
  known : ∀ k ∈ g, reader ∈ (h.cellAt k).dependents ↔ k ∈ new
  /-- The other dependents keep their order. -/
  others : ∀ k ∈ g, (h.cellAt k).dependents.filter (· != reader) =
    (g.cellAt k).dependents.filter (· != reader)
  /-- Nothing but the dependents of a cell changes. -/
  fields : ∀ k ∈ g, h.cellAt k = { g.cellAt k
      with dependents := (h.cellAt k).dependents }
  /-- A cell that knew the reader and is to know it stays as it is, and so does
  one that did not and is not. -/
  untouched : ∀ k ∈ g, (k ∈ old ↔ k ∈ new) → h.cellAt k = g.cellAt k

/-- A difference between lists that say who knows the reader moves it from the
one to the other. -/
theorem moved_patch
    (hknown : ∀ k ∈ g, reader ∈ (g.cellAt k).dependents ↔ k ∈ old) :
    Moved g (g.patch reader (.between old new)) reader old new where
  size := size_patch
  numCols := rfl
  known := fun k hk => by
    rw [cellAt_patch hk, EdgeDiff.mem_patch_between (hknown k hk), if_pos rfl]
  others := fun k hk => by
    rw [cellAt_patch hk]
    exact congrArg Cell.dependents EdgeDiff.withoutDependent_patch
  fields := fun k hk => by
    rw [cellAt_patch hk]
    exact EdgeDiff.patch_eq
  untouched := fun k hk hsame => by
    rw [cellAt_patch hk]
    refine EdgeDiff.patch_of_notMem (fun hstale => ?_) fun hfresh => ?_
    · obtain ⟨hold, hnew⟩ := EdgeDiff.mem_stale.mp hstale
      exact hnew (hsame.mp hold)
    · obtain ⟨hnew, hold⟩ := EdgeDiff.mem_fresh.mp hfresh
      exact hold (hsame.mpr hnew)

theorem patch_patch : (g.patch reader d).patch reader d = g.patch reader d := by
  refine ext_cellAt size_patch rfl fun k hk => ?_
  rw [cellAt_patch hk, cellAt_patch (mem_patch.mp hk), EdgeDiff.patch_patch]

-- ================================================================= result

/-- The difference of two lists of cells can be applied where the first one
tells which cells know the reader. Then just those of the second one do, the
other dependents keep their order, and nothing else changes. Any difference
between cells of the grid can be applied, and a second time it changes nothing,
whatever it lists repeatedly or on both sides. -/
theorem applyDiff_moves (hg : g.Indexed) (reader : Int) :
    (∀ old new : List Int, (∀ k ∈ old, k ∈ g) → (∀ k ∈ new, k ∈ g) →
      (∀ k ∈ g, reader ∈ (g.cellAt k).dependents ↔ k ∈ old) →
      ∃ h, g.applyDiff reader (.between old new) = .ok h ∧
        Moved g h reader old new) ∧
    ∀ d : EdgeDiff, (∀ k ∈ d.stale, k ∈ g) → (∀ k ∈ d.fresh, k ∈ g) →
      ∃ h, g.applyDiff reader d = .ok h ∧ h.applyDiff reader d = .ok h := by
  constructor
  · intro old new hold hnew hknown
    refine ⟨_, applyDiff_of_mem hg (fun k hk => ?_) (fun k hk => ?_),
      moved_patch hknown⟩
    · exact hold k (EdgeDiff.mem_stale.mp hk).1
    · exact hnew k (EdgeDiff.mem_fresh.mp hk).1
  · intro d hstale hfresh
    refine ⟨_, applyDiff_of_mem hg hstale hfresh, ?_⟩
    rw [applyDiff_of_mem hg.patch (fun k hk => mem_patch.mpr (hstale k hk))
      (fun k hk => mem_patch.mpr (hfresh k hk)), patch_patch]

/-- The first cell knows the second one twice and is to lose it, the second one
is to know itself. In the other difference the last cell is on both sides. -/
theorem applyDiff_moves_three_cells :
    let g : Grid := ⟨#[⟨0, "3", some 3, [], [1, 2, 1]⟩, ⟨1, "", none, [0], [2]⟩,
      ⟨2, "", none, [0, 1], []⟩], 3⟩
    (∃ h, g.applyDiff 1 (.between [0, 0] [2, 1, 2]) = .ok h ∧
      Moved g h 1 [0, 0] [2, 1, 2]) ∧
      ∃ h, g.applyDiff 1 ⟨[2, 0, 2], [2, 2]⟩ = .ok h ∧
        h.applyDiff 1 ⟨[2, 0, 2], [2, 2]⟩ = .ok h := by
  intro g
  have hg : g.Indexed := indexed_of_cells (by decide)
  have hknown : ∀ k : Fin 3, 1 ∈ (g.cellAt k).dependents ↔
    (k : Int) ∈ [0, 0] := by decide
  obtain ⟨hmoves, hagain⟩ := applyDiff_moves hg 1
  refine ⟨hmoves [0, 0] [2, 1, 2] (by decide) (by decide) fun k hk => ?_,
    hagain ⟨[2, 0, 2], [2, 2]⟩ (by decide) (by decide)⟩
  have := hknown ⟨k.toNat, toNat_lt hk⟩
  rwa [Int.toNat_of_nonneg hk.1] at this

end Grid

end Worksheet
