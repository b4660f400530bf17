/-
The two directions of the edges, on any grid.

A commit replaces the edges that go out from one cell, and tells the cells at
their other ends. The dependents of the cell itself are those of the state that
is put in, so it alone is not told. As long as these are the dependents that it
had, the two directions agree afterwards wherever they did before, but for one
edge: whether the cell reads itself (`Wired.rewire`).

Nothing is asked of the shape of the graph here. Edges may run in circles, and
lead from a cell to itself.
-/
import Worksheet.Proofs.Grid.Consistency

namespace Worksheet

namespace Grid

variable {g : Grid} {new : Cell} {i j a b x : Int}

-- ============================================================= one commit

section

variable (hi : i ∈ g) (hindex : new.index = i)

include hi hindex

/-- Only the edges out of the committed cell differ from those before. -/
theorem reads_rewire_iff : (g.rewire (g.cellAt i) new).Reads x j ↔
    if x = i then j ∈ new.dependencies else g.Reads x j := by
  subst hindex
  rw [reads_iff, reads_iff, mem_rewire]
  by_cases hx : x = new.index
  · rw [if_pos hx, hx, cellAt_rewire_self hi]
    exact and_iff_right hi
  · rw [if_neg hx]
    refine and_congr_right fun hxg => ?_
    rw [cellAt_rewire_ne hi hxg hx, EdgeDiff.patch_dependencies]

/-- The other cells know the committed one as a dependent just if it reads them
now; what else they know, and what it knows itself, stays. -/
theorem feeds_rewire_iff
    (hdependents : new.dependents = (g.cellAt i).dependents)
    (hagree : ∀ a, a ≠ i → (g.Feeds a i ↔ g.Reads i a)) :
    (g.rewire (g.cellAt i) new).Feeds a b ↔
      if a ≠ i ∧ b = i then a ∈ g ∧ a ∈ new.dependencies else g.Feeds a b := by
  subst hindex
  rw [feeds_iff, feeds_iff, mem_rewire]
  by_cases ha : a = new.index
  · rw [if_neg fun h => h.1 ha, ha, cellAt_rewire_self hi, hdependents]
  · by_cases hag : a ∈ g
    · have hknown : new.index ∈ (g.cellAt a).dependents ↔
          a ∈ (g.cellAt new.index).dependencies := by
        have := hagree a ha
        rwa [feeds_iff, reads_iff, and_iff_right hag, and_iff_right hi] at this
      rw [cellAt_rewire_ne hi hag ha, EdgeDiff.mem_patch_between hknown]
      by_cases hb : b = new.index
      · rw [if_pos hb, if_pos ⟨ha, hb⟩]
      · rw [if_neg hb, if_neg fun h => hb h.2]
    · refine iff_of_false (fun h => hag h.1) fun h => ?_
      split at h
      · exact hag h.1
      · exact hag h.1

/-- The cells stand at their own index as before. -/
theorem Indexed.rewire (hg : g.Indexed) : (g.rewire (g.cellAt i) new).Indexed :=
  hg.patch.set (mem_patch.mpr (hindex.symm ▸ hi))

/-- What the cells read is on the grid as before. -/
theorem closed_rewire (hg : g.Closed Cell.dependencies)
    (hmem : ∀ j ∈ new.dependencies, j ∈ g) :
    (g.rewire (g.cellAt i) new).Closed Cell.dependencies := by
  intro x j hstep
  rw [mem_rewire]
  have hstep := (reads_rewire_iff hi hindex).mp hstep
  split at hstep
  · exact hmem j hstep
  · exact hg x j hstep

end

-- ================================================================== wiring

/-- The cells stand at their own index, the edges stay on the grid, and the two
directions agree, except perhaps on whether a cell reads itself. -/
structure Wired (g : Grid) : Prop where
  indexed : g.Indexed
  closed_dependencies : g.Closed Cell.dependencies
  closed_dependents : g.Closed Cell.dependents
  agree : ∀ a b, a ≠ b → (g.Feeds a b ↔ g.Reads b a)

namespace Wired

/-- A state with the dependents that the cell had, and dependencies on the grid,
can be committed. -/
theorem commit (hg : g.Wired) (hi : i ∈ g) (hindex : new.index = i)
    (hmem : ∀ j ∈ new.dependencies, j ∈ g) :
    g.commit (g.cellAt i) new = .ok (g.rewire (g.cellAt i) new) :=
  commit_of_mem hg.indexed (hindex.symm ▸ hi)
    (fun j hj => hg.closed_dependencies i j (reads_iff.mpr ⟨hi, hj⟩)) hmem

/-- The grid stays wired, and no cell begins or ceases to know itself as a
dependent. -/
theorem rewire (hg : g.Wired) (hi : i ∈ g) (hindex : new.index = i)
    (hdependents : new.dependents = (g.cellAt i).dependents)
    (hmem : ∀ j ∈ new.dependencies, j ∈ g) :
    (g.rewire (g.cellAt i) new).Wired ∧
      ∀ a, (g.rewire (g.cellAt i) new).Feeds a a ↔ g.Feeds a a := by
  have hfeeds := fun a b => @feeds_rewire_iff g new i a b hi hindex hdependents
    fun a ha => hg.agree a i ha
  refine ⟨⟨hg.indexed.rewire hi hindex, closed_rewire hi hindex
    hg.closed_dependencies hmem,
    fun x j hstep => ?_, fun a b hne => ?_⟩, fun a => ?_⟩
  · rw [mem_rewire]
    have hstep := (hfeeds x j).mp hstep
    split at hstep
    · next h => exact h.2 ▸ hi
    · exact hg.closed_dependents x j hstep
  · rw [hfeeds, reads_rewire_iff hi hindex]
    by_cases hb : b = i
    · rw [if_pos ⟨fun ha => hne (ha.trans hb.symm), hb⟩, if_pos hb]
      exact ⟨fun h => h.2, fun h => ⟨hmem a h, h⟩⟩
    · rw [if_neg fun h => hb h.2, if_neg hb]
      exact hg.agree a b hne
  · rw [hfeeds, if_neg fun h => h.1 h.2]

/-- The check of a wired grid reports the cells on which the two directions
differ, each as a pair of itself. -/
theorem brokenEdges_spec (hg : g.Wired) :
    ∃ broken, g.brokenEdges = .ok broken ∧
      ∀ a b, (a, b) ∈ broken ↔ a = b ∧ ¬ (g.Feeds a a ↔ g.Reads a a) := by
  obtain ⟨broken, heq, hmem⟩ :=
    Grid.brokenEdges_spec hg.indexed hg.closed_dependencies hg.closed_dependents
  refine ⟨broken, heq, fun a b => ?_⟩
  rw [hmem a b]
  by_cases hab : a = b
  · rw [hab]
    exact (and_iff_right rfl).symm
  · exact iff_of_false (fun hdiffer => hdiffer (hg.agree a b hab)) fun h =>
      hab h.1

/-- It passes if every cell that reads itself knows so, and none else believes
to be read by itself. -/
theorem brokenEdges_eq_nil_iff (hg : g.Wired) :
    g.brokenEdges = .ok [] ↔ ∀ a, g.Feeds a a ↔ g.Reads a a := by
  rw [Grid.brokenEdges_eq_nil_iff hg.indexed hg.closed_dependencies
    hg.closed_dependents]
  constructor
  · exact fun hagree a => hagree a a
  · intro hself a b
    by_cases hab : a = b
    · rw [hab]
      exact hself b
    · exact hg.agree a b hab

end Wired

end Grid

end Worksheet
