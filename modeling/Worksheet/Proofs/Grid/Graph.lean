/-
The graph of a grid, and what a commit does to it.

A grid is coherent when its cells stand at their own index and their two
lists of edges describe one graph: no edge leaves the grid or is listed
twice, both directions agree, and no cell depends on itself, directly or
through others.

# Why a commit keeps the graph free of cycles

A commit replaces the edges that go out from one cell and no others. A
path of the new graph that ends in this cell therefore is one of the old
graph up to its first visit there (`reach_source`), and a new cycle would
have to run through one of the new edges and back. Hence it is enough that
none of the new dependencies led to the cell before the commit, and that is
what evaluation asks the old graph.

# What coherence is good for

On a coherent grid one can argue by induction along the dependencies
(`Coherent.induction`), and the order of recomputation lists exactly the
cells that depend on the root, each after everything it reads
(`Coherent.order_spec`).
-/
import Mathlib.Data.Set.Finite.Basic
import Worksheet.Proofs.Grid.Schedule
import Worksheet.Proofs.Grid.Wiring

namespace Worksheet

open Relation (ReflTransGen TransGen)

-- ================================================== redirecting one source

section

variable {α : Type} {R R' : α → α → Prop} {a b i : α}

/-- When two relations differ at one source only, a path to this source is
a path of the other relation as well. -/
theorem reach_source (h : ∀ a, a ≠ i → ∀ b, R' a b → R a b)
    (hreach : ReflTransGen R' a i) :
    ReflTransGen R a i := by
  induction hreach using ReflTransGen.head_induction_on with
  | refl => exact .refl
  | @head a b hstep _ ih =>
      by_cases ha : a = i
      · rw [ha]
      · exact .head (h a ha b hstep) ih

/-- Every other path is one of both relations, or runs through this source. -/
theorem transGen_or_source (h : ∀ a, a ≠ i → ∀ b, R' a b → R a b)
    (hpath : TransGen R' a b) :
    TransGen R a b ∨ ReflTransGen R' a i ∧ TransGen R' i b := by
  induction hpath using TransGen.head_induction_on with
  | @single a hstep =>
      by_cases ha : a = i
      · subst ha
        exact Or.inr ⟨.refl, .single hstep⟩
      · exact Or.inl (.single (h a ha b hstep))
  | @head a c hstep hrest ih =>
      by_cases ha : a = i
      · subst ha
        exact Or.inr ⟨.refl, .head hstep hrest⟩
      · rcases ih with hpath | ⟨hreach, hpath⟩
        · exact Or.inl (.head (h a ha c hstep) hpath)
        · exact Or.inr ⟨.head hstep hreach, hpath⟩

/-- New edges at one source close no cycle unless one of them leads back. -/
theorem acyclic_of_redirect (h : ∀ a, a ≠ i → ∀ b, R' a b → R a b)
    (hacyclic : ∀ a, ¬ TransGen R a a)
    (hback : ∀ b, R' i b → ¬ ReflTransGen R b i) :
    ∀ a, ¬ TransGen R' a a := by
  have hsource : ¬ TransGen R' i i := by
    intro hcycle
    obtain ⟨b, hstep, hreach⟩ := TransGen.head'_iff.mp hcycle
    exact hback b hstep (reach_source h hreach)
  intro a hcycle
  rcases transGen_or_source h hcycle with hold | ⟨hreach, hpath⟩
  · exact hacyclic a hold
  · exact hsource (hpath.trans_left hreach)

end

-- ======================================================== finitely many

/-- Where each of finitely many elements has another one in front of it, each is
on a circle or behind one. -/
theorem exists_cycle_of_stuck {α : Type} {R : α → α → Prop} {l : List α}
    {P : α → Prop} (hfinite : ∀ x, P x → x ∈ l)
    (hstuck : ∀ x, P x → ∃ u, P u ∧ R u x) :
    ∀ x, P x → ∃ c, TransGen R c c ∧ ReflTransGen R c x := by
  intro x hx
  by_contra hnone
  -- what leads to the element would have no circle, and so a first one
  let Before := { y : α // P y ∧ ReflTransGen R y x }
  have hbefore : Finite Before :=
    Set.Finite.subset l.finite_toSet fun y (hy : P y ∧ _) => hfinite y hy.1
  let below (a b : Before) : Prop := TransGen R a.1 b.1
  have htrans : IsTrans _ below := ⟨fun _ _ _ hab hbc => hab.trans hbc⟩
  have hirrefl : Std.Irrefl below :=
    ⟨fun a hcycle => hnone ⟨a.1, hcycle, a.2.2⟩⟩
  have hwf : WellFounded below := Finite.wellFounded_of_trans_of_irrefl below
  refine hwf.induction (C := fun _ => False) ⟨x, hx, .refl⟩ fun y ih => ?_
  obtain ⟨u, hu, hstep⟩ := hstuck y.1 y.2.1
  exact ih ⟨u, hu, .head hstep y.2.2⟩ (.single hstep)

namespace Grid

variable {g : Grid} {new : Cell} {i j root x : Int}

-- =============================================================== coherence

/-- The cells stand at their own index and their edges describe one graph
without cycles on the grid. -/
structure Coherent (g : Grid) : Prop where
  indexed : g.Indexed
  dependencies_mem : ∀ i ∈ g, ∀ j ∈ (g.cellAt i).dependencies, j ∈ g
  dependents_mem : ∀ i ∈ g, ∀ j ∈ (g.cellAt i).dependents, j ∈ g
  dependencies_nodup : ∀ i ∈ g, (g.cellAt i).dependencies.Nodup
  dependents_nodup : ∀ i ∈ g, (g.cellAt i).dependents.Nodup
  agree : ∀ i ∈ g, ∀ j ∈ g,
    j ∈ (g.cellAt i).dependents ↔ i ∈ (g.cellAt j).dependencies
  acyclic : ∀ i, ¬ TransGen g.Reads i i

namespace Coherent

theorem closed_dependencies (hg : g.Coherent) : g.Closed Cell.dependencies := by
  intro i j hstep
  obtain ⟨hi, hj⟩ := reads_iff.mp hstep
  exact hg.dependencies_mem i hi j hj

theorem closed_dependents (hg : g.Coherent) : g.Closed Cell.dependents := by
  intro i j hstep
  obtain ⟨hi, hj⟩ := feeds_iff.mp hstep
  exact hg.dependents_mem i hi j hj

/-- Nothing that a cell reads leads back to it. -/
theorem noCycle (hg : g.Coherent) (hi : i ∈ g) :
    ∀ k ∈ (g.cellAt i).dependencies, ¬ ReflTransGen g.Reads k i :=
      fun _ hk hreach =>
  hg.acyclic i (.head' (reads_iff.mpr ⟨hi, hk⟩) hreach)

/-- The two kinds of edges are the two directions of one graph. -/
theorem feeds_iff_reads (hg : g.Coherent) : g.Feeds i j ↔ g.Reads j i := by
  rw [feeds_iff, reads_iff]
  constructor
  · rintro ⟨hi, hj⟩
    have hj' := hg.dependents_mem i hi j hj
    exact ⟨hj', (hg.agree i hi j hj').mp hj⟩
  · rintro ⟨hj, hi⟩
    have hi' := hg.dependencies_mem j hj i hi
    exact ⟨hi', (hg.agree i hi' j hj).mpr hi⟩

/-- Blank cells are coherent. -/
theorem of_blank (hblank : ∀ i ∈ g, g.cellAt i = Cell.blank i) :
    g.Coherent := by
  have hnone : ∀ i j, ¬ g.Reads i j := by
    intro i j hstep
    obtain ⟨hi, hj⟩ := reads_iff.mp hstep
    rw [hblank i hi] at hj
    cases hj
  refine ⟨fun i hi => ?_, fun i hi => ?_, fun i hi => ?_, fun i hi => ?_,
    fun i hi => ?_,
    fun i hi j hj => ?_, fun i hcycle => ?_⟩
  · rw [hblank i hi]
    rfl
  · rw [hblank i hi]
    nofun
  · rw [hblank i hi]
    nofun
  · rw [hblank i hi]
    exact .nil
  · rw [hblank i hi]
    exact .nil
  · rw [hblank i hi, hblank j hj]
    simp [Cell.blank]
  · obtain ⟨j, hstep, -⟩ := TransGen.head'_iff.mp hcycle
    exact hnone i j hstep

-- ================================================================ a commit

/-- A coherent grid is wired; that no cell reads itself comes on top. -/
theorem wired (hg : g.Coherent) : g.Wired :=
  ⟨hg.indexed, hg.closed_dependencies, hg.closed_dependents,
    fun _ _ _ => hg.feeds_iff_reads⟩

theorem not_feeds_self (hg : g.Coherent) : ¬ g.Feeds i i := fun hstep =>
  hg.acyclic i (.single (hg.feeds_iff_reads.mp hstep))

/-- A new state of a cell is committed coherently when it keeps the
dependents and when none of its dependencies led back to the cell. -/
theorem rewire (hg : g.Coherent) (hi : i ∈ g) (hindex : new.index = i)
    (hdependents : new.dependents = (g.cellAt i).dependents)
    (hmem : ∀ j ∈ new.dependencies, j ∈ g) (hnodup : new.dependencies.Nodup)
    (hback : ∀ j ∈ new.dependencies, ¬ ReflTransGen g.Reads j i) :
    (g.rewire (g.cellAt i) new).Coherent := by
  have hreads := fun x j => @reads_rewire_iff g new i j x hi hindex
  obtain ⟨hwired, hself⟩ := hg.wired.rewire hi hindex hdependents hmem
  have hacyclic : ∀ a, ¬ TransGen (g.rewire (g.cellAt i) new).Reads a a := by
    refine acyclic_of_redirect (i := i) (fun a ha b hstep => ?_) hg.acyclic
      fun b hstep => ?_
    · rw [hreads, if_neg ha] at hstep
      exact hstep
    · rw [hreads, if_pos rfl] at hstep
      exact hback b hstep
  refine ⟨hwired.indexed,
    fun x hx j hj => hwired.closed_dependencies x j (reads_iff.mpr ⟨hx, hj⟩),
    fun x hx j hj => hwired.closed_dependents x j (feeds_iff.mpr ⟨hx, hj⟩),
    fun x hx => ?_, fun x hx => ?_, fun a ha b hb => ?_, hacyclic⟩
  · subst hindex
    by_cases hxi : x = new.index
    · rw [hxi, cellAt_rewire_self hi]
      exact hnodup
    · have hx' := mem_rewire.mp hx
      rw [cellAt_rewire_ne hi hx' hxi, EdgeDiff.patch_dependencies]
      exact hg.dependencies_nodup x hx'
  · subst hindex
    have hx' := mem_rewire.mp hx
    by_cases hxi : x = new.index
    · rw [hxi, cellAt_rewire_self hi, hdependents]
      exact hg.dependents_nodup _ hi
    · rw [cellAt_rewire_ne hi hx' hxi]
      exact EdgeDiff.nodup_patch (hg.dependents_nodup x hx')
  · have hstep : (g.rewire (g.cellAt i) new).Feeds a b ↔
        (g.rewire (g.cellAt i) new).Reads b a := by
      by_cases hab : a = b
      · rw [← hab, hself]
        exact iff_of_false hg.not_feeds_self fun hstep =>
          hacyclic a (.single hstep)
      · exact hwired.agree a b hab
    rwa [feeds_iff, reads_iff, and_iff_right ha, and_iff_right hb] at hstep

-- ========================================================== along the edges

/-- A cell can be treated after everything that it reads. -/
theorem induction (hg : g.Coherent) {P : Int → Prop}
    (step : ∀ i ∈ g, (∀ j, g.Reads i j → P j) → P i) : ∀ i ∈ g, P i := by
  intro i hi
  by_contra hnot
  have hfinite : ∀ x, x ∈ g ∧ ¬ P x → x ∈ g.cells.toList.map Cell.index :=
    fun x ⟨hx, _⟩ =>
    List.mem_map.mpr ⟨g.cellAt x,
      Array.mem_toList_iff.mpr (Array.mem_of_getElem? (getElem?_of_mem hx)),
      hg.indexed x hx⟩
  -- a cell that cannot be treated reads another one
  have hstuck : ∀ x, x ∈ g ∧ ¬ P x → ∃ u, (u ∈ g ∧ ¬ P u) ∧ g.Reads x u := by
    rintro x ⟨hx, hx'⟩
    by_contra hnone
    refine hx' (step x hx fun u hread => ?_)
    by_contra hu
    exact hnone ⟨u, ⟨hg.closed_dependencies x u hread, hu⟩, hread⟩
  obtain ⟨c, hcycle, -⟩ := exists_cycle_of_stuck (R := Function.swap g.Reads)
    hfinite hstuck i ⟨hi, hnot⟩
  exact hg.acyclic c (Relation.transGen_swap.mp hcycle)

theorem reach_feeds_iff (hg : g.Coherent) :
    ReflTransGen g.Feeds root x ↔ ReflTransGen g.Reads x root :=
  reach_feeds_iff_of_agree fun _ _ => hg.feeds_iff_reads

/-- The order of recomputation lists the cells that depend on the root, each
once and none before a cell that it reads. -/
theorem order_spec (hg : g.Coherent) (hroot : root ∈ g) :
    ∃ order, g.recomputationOrder root = .ok order ∧ order.Nodup ∧
      (∀ x, x ∈ order ↔ TransGen g.Reads x root) ∧
      order.Pairwise fun a b => ¬ g.Reads a b := by
  obtain ⟨l, heq, hnodup, hmem⟩ := affected_spec hg.closed_dependents hroot
  have hl : ∀ x, x ∈ l ↔ TransGen g.Reads x root := by
    intro x
    rw [hmem x, hg.reach_feeds_iff, Relation.reflTransGen_iff_eq_or_transGen]
    constructor
    · exact fun ⟨hne, hor⟩ => hor.resolve_left fun heq => hne heq.symm
    · exact fun hpath => ⟨fun heq => hg.acyclic root (heq ▸ hpath),
        Or.inr hpath⟩
  have hon : ∀ x ∈ l, x ∈ g := fun x hx => mem_of_path ((hl x).mp hx)
  have hedge : ∀ u ∈ g, ∀ x, x ∈ g.dependentsOf u ↔ g.Reads x u := by
    intro u hu x
    rw [← hg.feeds_iff_reads]
    exact (and_iff_right hu).symm
  obtain ⟨placed, hsort, hplaced, hsub, hordered, -, -, hstuck⟩ :=
    sortAffected_spec hnodup
  -- a cell that is not placed waits for another one, and so on along the
  -- dependencies
  have hall : ∀ x ∈ g, x ∈ l → x ∈ placed := by
    refine hg.induction fun x _ ih hx => ?_
    by_contra hnot
    obtain ⟨u, hu, hunot, hxu⟩ := hstuck x hx hnot
    exact hunot (ih u ((hedge u (hon u hu) x).mp hxu) hu)
  have hrest : l.filter (!placed.contains ·) = [] := by
    refine List.filter_eq_nil_iff.mpr fun x hx => ?_
    have := hall x (hon x hx) hx
    simpa using this
  rw [hrest, List.append_nil] at hsort
  refine ⟨placed, by
    rw [recomputationOrder, heq, ← hsort]; rfl, hplaced, fun x => ?_, ?_⟩
  · rw [← hl x]
    exact ⟨fun hx => hsub hx, fun hx => hall x (hon x hx) hx⟩
  · refine hordered.imp_of_mem fun {a b} ha hb hnot hstep => hnot ?_
    exact (hedge b (hon b (hsub hb)) a).mpr hstep

end Coherent

end Grid

end Worksheet
