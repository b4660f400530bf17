/-
The check of the two directions of the edges.

The check goes through the cells and through the edges of each, and asks the
cell at the other end. An edge that the other end does not know of is reported
as a pair of a dependency and its dependent, whichever of the two directions it
was found in. So what is reported are exactly the pairs on which the directions
disagree (`brokenEdges_spec`), and nothing is reported just if they describe one
graph (`brokenEdges_eq_nil_iff`).

Nothing else is asked of the grid: edges may run in circles, lead from a cell to
itself, or be listed twice.

# How often a pair is reported

A pair can be found at its dependent, which lists what it reads, and at its
dependency, which lists its readers. No other cell reports it. At either of the
two it is reported as often as it is listed there, unless the other end knows of
it (`count_broken`). Both places are never at work for one pair, because each is
at work only if the other one does not list the edge.
-/
import Mathlib.Algebra.BigOperators.Group.List.Basic
import Mathlib.Algebra.GroupWithZero.Nat
import Mathlib.Data.List.Count
import Mathlib.Data.Prod.Basic
import Worksheet.Proofs.Grid.Reach

namespace Worksheet

namespace Grid

variable {g : Grid} {edges : Cell → List Int} {self a b : Int} {l : List Int}
  {c : Cell}

/-- The other ends of some edges that lie on the grid can all be asked. -/
private theorem unaware_of_mem (hl : ∀ i ∈ l, i ∈ g) :
    g.unaware edges self l =
      .ok (l.filter fun i => !(edges (g.cellAt i)).contains self) := by
  induction l with
  | nil => rfl
  | cons i l ih =>
      rw [unaware, cell_of_mem (hl i List.mem_cons_self),
        ih fun k hk => hl k (List.mem_cons_of_mem _ hk), List.filter_cons]
      show Except.ok _ = Except.ok _
      cases (edges (g.cellAt i)).contains self <;> rfl

/-- The edges of one cell of which the other end does not know. -/
def brokenOf (g : Grid) (c : Cell) : List (Int × Int) :=
  (c.dependencies.filter fun i => !(g.cellAt i).dependents.contains c.index).map
    (·, c.index) ++
    (c.dependents.filter fun i =>
      !(g.cellAt i).dependencies.contains c.index).map (c.index, ·)

theorem brokenEdgesOf_of_mem (hdependencies : ∀ i ∈ c.dependencies, i ∈ g)
    (hdependents : ∀ i ∈ c.dependents, i ∈ g) :
    g.brokenEdgesOf c = .ok (g.brokenOf c) := by
  unfold brokenEdgesOf
  rw [unaware_of_mem hdependencies, unaware_of_mem hdependents]
  rfl

/-- The edges of all cells of which the other end does not know, cell by
cell. -/
def broken (g : Grid) : List (Int × Int) := g.cells.toList.flatMap g.brokenOf

/-- Where the edges lie on the grid, the check goes through. -/
theorem brokenEdges_of_closed (hdependencies : g.Closed Cell.dependencies)
    (hdependents : g.Closed Cell.dependents) :
    g.brokenEdges = .ok g.broken := by
  have hcells : ∀ c ∈ g.cells.toList,
      g.brokenEdgesOf c = .ok (g.brokenOf c) := by
    intro c hc
    obtain ⟨i, hi, rfl⟩ := mem_cells_iff.mp (Array.mem_toList_iff.mp hc)
    exact brokenEdgesOf_of_mem (fun k hk => hdependencies i k
      (reads_iff.mpr ⟨hi, hk⟩))
      fun k hk => hdependents i k (feeds_iff.mpr ⟨hi, hk⟩)
  unfold brokenEdges
  rw [mapM_eq_ok hcells, broken, List.flatMap_def]
  rfl

-- ================================================================ counting

/-- Pairs made from the elements that pass a test are counted by the element. -/
private theorem count_pairs {f : Int → Int × Int} (hf : Function.Injective f)
    {p : Int → Bool} {i : Int} :
    ((l.filter p).map f).count (f i) = if p i then l.count i else 0 := by
  rw [List.count_map_of_injective _ f hf]
  split
  · next hp => exact List.count_filter hp
  · next hp =>
      exact List.count_eq_zero.mpr fun hmem => hp (List.mem_filter.mp hmem).2

/-- Of one cell a pair is reported as often as the cell lists the edge. -/
private theorem count_brokenOf : (g.brokenOf c).count (a, b) =
    (if c.index = b ∧ b ∉ (g.cellAt a).dependents then c.dependencies.count a
      else 0) +
      if c.index = a ∧ a ∉ (g.cellAt b).dependencies then c.dependents.count b
        else 0 := by
  unfold brokenOf
  rw [List.count_append]
  congr 1
  · by_cases hb : c.index = b
    · rw [← hb, count_pairs (Prod.mk_left_injective c.index)]
      simp
    · rw [if_neg fun h => hb h.1, List.count_eq_zero]
      simp [hb]
  · by_cases ha : c.index = a
    · rw [← ha, count_pairs (Prod.mk_right_injective c.index)]
      simp
    · rw [if_neg fun h => ha h.1, List.count_eq_zero]
      simp [ha]

/-- A sum over the indices of a grid to which only one of them contributes. -/
private theorem sum_range_ite {f : Int → Nat} {P : Prop} [Decidable P] :
    ((List.range g.size).map fun k : Nat =>
      if (k : Int) = a ∧ P then f k else 0).sum =
      if a ∈ g ∧ P then f a else 0 := by
  by_cases ha : a ∈ g
  · have hcast : (a.toNat : Int) = a := Int.toNat_of_nonneg ha.1
    have hone : (List.range g.size).count a.toNat = 1 :=
      List.count_eq_one_of_mem List.nodup_range
        (List.mem_range.mpr (toNat_lt ha))
    rw [List.sum_map_eq_nsmul_single a.toNat _ fun k hk _ => if_neg fun h => hk
      (by omega), hone, hcast, one_nsmul]
    simp [ha]
  · rw [if_neg fun h => ha h.1]
    refine List.sum_eq_zero fun n hn => ?_
    obtain ⟨k, hk, rfl⟩ := List.mem_map.mp hn
    have hon : (k : Int) ∈ g := natCast_mem.mpr (List.mem_range.mp hk)
    have hother : ¬ ((k : Int) = a ∧ P) := fun h => ha (h.1 ▸ hon)
    exact if_neg hother

/-- A pair is reported at its two ends only: at each as often as the edge is
listed there, unless the other end lists it too. -/
theorem count_broken (hg : g.Indexed) : g.broken.count (a, b) =
    (if b ∈ g ∧ b ∉ (g.cellAt a).dependents
      then (g.cellAt b).dependencies.count a else 0) +
      if a ∈ g ∧ a ∉ (g.cellAt b).dependencies
        then (g.cellAt a).dependents.count b else 0 := by
  have hcount : ∀ k ∈ List.range g.size,
      (List.count (a, b) ∘ fun k : Nat => g.brokenOf (g.cellAt k)) k =
        (if (k : Int) = b ∧ b ∉ (g.cellAt a).dependents then
            (g.cellAt k).dependencies.count a else 0) +
          if (k : Int) = a ∧ a ∉ (g.cellAt b).dependencies then
            (g.cellAt k).dependents.count b else 0 := by
    intro k hk
    show (g.brokenOf (g.cellAt k)).count (a, b) = _
    rw [count_brokenOf, hg k (natCast_mem.mpr (List.mem_range.mp hk))]
  rw [broken, toList_cells, List.flatMap_map, List.count_flatMap,
    List.map_congr_left hcount, List.sum_map_add,
    sum_range_ite (f := fun i => (g.cellAt i).dependencies.count a),
    sum_range_ite (f := fun i => (g.cellAt i).dependents.count b)]

-- ================================================================= results

section

variable (hg : g.Indexed) (hdependencies : g.Closed Cell.dependencies)
  (hdependents : g.Closed Cell.dependents)

include hg hdependencies hdependents

/-- The pairs of which only one end knows lie on the grid. -/
private theorem mem_broken : (a, b) ∈ g.broken ↔ a ∈ g ∧ b ∈ g ∧
    Xor (b ∈ (g.cellAt a).dependents) (a ∈ (g.cellAt b).dependencies) := by
  have hfeeds : a ∈ g → b ∈ (g.cellAt a).dependents → b ∈ g := fun ha hb =>
    hdependents a b (feeds_iff.mpr ⟨ha, hb⟩)
  have hreads : b ∈ g → a ∈ (g.cellAt b).dependencies → a ∈ g := fun hb ha =>
    hdependencies b a (reads_iff.mpr ⟨hb, ha⟩)
  have hpos : ∀ {P : Prop} [Decidable P] {n : Nat},
      0 < (if P then n else 0) ↔ P ∧ 0 < n := by
    intro P _ n
    split <;> simp [*]
  rw [← List.count_pos_iff, count_broken hg, Nat.add_pos_iff_pos_or_pos,
    hpos, hpos, List.count_pos_iff, List.count_pos_iff, xor_def]
  tauto

/-- The check reports the pairs that are an edge in one direction only. -/
theorem brokenEdges_spec :
    ∃ broken, g.brokenEdges = .ok broken ∧
      ∀ a b, (a, b) ∈ broken ↔ ¬ (g.Feeds a b ↔ g.Reads b a) := by
  refine ⟨_, brokenEdges_of_closed hdependencies hdependents, fun a b => ?_⟩
  have hfeeds : g.Feeds a b → b ∈ g := hdependents a b
  have hreads : g.Reads b a → a ∈ g := hdependencies b a
  rw [mem_broken hg hdependencies hdependents, xor_iff_not_iff]
  rw [feeds_iff] at hfeeds ⊢
  rw [reads_iff] at hreads ⊢
  tauto

/-- Nothing is reported just if the two directions describe one graph. -/
theorem brokenEdges_eq_nil_iff :
    g.brokenEdges = .ok [] ↔ ∀ a b, g.Feeds a b ↔ g.Reads b a := by
  obtain ⟨broken, heq, hmem⟩ := brokenEdges_spec hg hdependencies hdependents
  rw [heq]
  constructor
  · intro hnil
    cases hnil
    intro a b
    by_contra hdiffer
    cases (hmem a b).mpr hdiffer
  · intro hagree
    have hnil : broken = [] := List.eq_nil_iff_forall_not_mem.mpr
        fun (a, b) hin =>
      (hmem a b).mp hin (hagree a b)
    rw [hnil]

/-- On any grid whose cells stand at their own index and whose edges lie on it,
the check comes to an answer. It reports the pairs of cells of which exactly one
knows the edge between them, each as often as this one lists it, and reports
nothing just if the two directions describe one relation. -/
theorem brokenEdges_exact :
    ∃ broken, g.brokenEdges = .ok broken ∧
      (∀ a b, (a, b) ∈ broken ↔ a ∈ g ∧ b ∈ g ∧
        Xor (b ∈ (g.cellAt a).dependents) (a ∈ (g.cellAt b).dependencies)) ∧
      (∀ a b, (a, b) ∈ broken → broken.count (a, b) =
        (g.cellAt a).dependents.count b + (g.cellAt b).dependencies.count a) ∧
      (broken = [] ↔ ∀ a b, g.Feeds a b ↔ g.Reads b a) := by
  have heq := brokenEdges_of_closed hdependencies hdependents
  have hmem := fun a b => @mem_broken g a b hg hdependencies hdependents
  refine ⟨g.broken, heq, hmem, fun a b hin => ?_, ?_⟩
  · obtain ⟨ha, hb, ⟨hlists, hnot⟩ | ⟨hlists, hnot⟩⟩ := (hmem a b).mp hin
    · rw [count_broken hg, if_neg fun h => h.2 hlists, if_pos ⟨ha, hnot⟩,
        List.count_eq_zero.mpr hnot, Nat.add_comm]
    · rw [count_broken hg, if_pos ⟨hb, hnot⟩, if_neg fun h => h.2 hlists,
        List.count_eq_zero.mpr hnot, Nat.add_comm]
  · rw [← brokenEdges_eq_nil_iff hg hdependencies hdependents, heq,
      Except.ok.injEq]

end

/-- The first cell is read by the second, which lists it twice, but does not
know. The second knows itself as a reader and does not read itself. On the edge
between the first and the last both agree. -/
theorem brokenEdges_exact_one_sided :
    let g : Grid := ⟨#[⟨0, "", none, [], [2]⟩, ⟨1, "", none, [0, 0], [1]⟩,
      ⟨2, "", none, [0], []⟩], 3⟩
    g.brokenEdges = .ok [(0, 1), (0, 1), (1, 1)] ∧
      Xor (1 ∈ (g.cellAt 0).dependents) (0 ∈ (g.cellAt 1).dependencies) ∧
      ¬ Xor (2 ∈ (g.cellAt 0).dependents) (0 ∈ (g.cellAt 2).dependencies) ∧
      ¬ ∀ a b, g.Feeds a b ↔ g.Reads b a := by
  intro g
  have hanswer : g.brokenEdges = .ok [(0, 1), (0, 1), (1, 1)] := by
    decide +kernel
  obtain ⟨broken, heq, hmem, -, hnil⟩ := brokenEdges_exact (g := g)
    (indexed_of_cells (by decide)) (closed_of_cells (by decide))
      (closed_of_cells (by decide))
  cases heq.symm.trans hanswer
  refine ⟨hanswer, ((hmem 0 1).mp (by decide)).2.2, fun hxor => ?_,
    fun hagree => ?_⟩
  · have hin := (hmem 0 2).mpr ⟨by decide, by decide, hxor⟩
    revert hin
    decide
  · cases hnil.mpr hagree

end Grid

end Worksheet
