/-
The two directions of the edges, step after step.

An edit and a propagation change the edges by commits alone. What is committed
is a state that evaluation accepted, or the cell as it was without its value. On
a wired grid both can be committed, and the grid stays wired (`Follows`): on two
different cells the directions agree whatever circles the edges run in.

# A cell that reads itself

No accepted formula refers to its own cell, so a cell may cease to read itself
but never begins to. A commit tells the cells at the other ends of the edges
first and puts the new state in last. This state still has the dependents of
the old one, so what the commit told the cell itself is lost. A cell that ceases
to read itself therefore stays among its own dependents. Nothing else goes out
of step: after one step and after any number of them the check reports just
these cells (`brokenEdges_of_run`).
-/
import Worksheet.Proofs.Grid.Circular

namespace Worksheet

open Relation (ReflTransGen TransGen)

namespace Grid

variable {g h k : Grid} {s : Settings} {content : String} {new : Cell}
  {i root a b : Int} {p p' : Propagation} {step : Step}
  {steps : List (Settings × Step)}

-- =============================================================== following

/-- A wired grid of the same shape, on which the same cells know themselves as a
dependent and no further cell reads itself. -/
structure Follows (g h : Grid) : Prop where
  wired : h.Wired
  size : h.size = g.size
  numCols : h.numCols = g.numCols
  feeds_self : ∀ a, h.Feeds a a ↔ g.Feeds a a
  reads_self : ∀ a, h.Reads a a → g.Reads a a

namespace Follows

theorem refl (hg : g.Wired) : Follows g g :=
  ⟨hg, rfl, rfl, fun _ => Iff.rfl, fun _ hstep => hstep⟩

theorem trans (hgh : Follows g h) (hhk : Follows h k) : Follows g k :=
  ⟨hhk.wired, hhk.size.trans hgh.size, hhk.numCols.trans hgh.numCols,
    fun a => (hhk.feeds_self a).trans (hgh.feeds_self a),
    fun a hstep => hgh.reads_self a (hhk.reads_self a hstep)⟩

/-- If the directions agreed on the first grid, the check of the second one
reports the cells that read themselves on the first one only, each as a pair of
itself. -/
theorem brokenEdges_spec (hf : Follows g h)
    (hagree : ∀ a b, g.Feeds a b ↔ g.Reads b a) :
    ∃ broken, h.brokenEdges = .ok broken ∧
      ∀ a b, (a, b) ∈ broken ↔ a = b ∧ g.Reads a a ∧ ¬ h.Reads a a := by
  obtain ⟨broken, heq, hmem⟩ := hf.wired.brokenEdges_spec
  refine ⟨broken, heq, fun a b => ?_⟩
  have hself : ¬ (h.Feeds a a ↔ h.Reads a a) ↔ g.Reads a a ∧ ¬ h.Reads a a := by
    rw [hf.feeds_self, hagree]
    have := hf.reads_self a
    tauto
  rw [hmem, hself]

end Follows

namespace Wired

/-- A commit that lets no further cell read itself is followed. -/
private theorem follows_rewire (hg : g.Wired) (hi : i ∈ g)
    (hindex : new.index = i)
    (hdependents : new.dependents = (g.cellAt i).dependents)
    (hmem : ∀ j ∈ new.dependencies, j ∈ g)
    (hself : i ∈ new.dependencies → g.Reads i i) :
    Follows g (g.rewire (g.cellAt i) new) := by
  obtain ⟨hwired, hfeeds⟩ := hg.rewire hi hindex hdependents hmem
  refine ⟨hwired, size_rewire, numCols_rewire, hfeeds, fun a hstep => ?_⟩
  rw [reads_rewire_iff hi hindex] at hstep
  split at hstep
  · next heq =>
    subst heq
    exact hself hstep
  · exact hstep

/-- The state of an accepted content does not read its own cell. -/
private theorem follows_accepted (hg : g.Wired) (hi : i ∈ g)
    (hacc : g.Accepted s i content new) :
    Follows g (g.rewire (g.cellAt i) new) :=
  hg.follows_rewire hi (hacc.index.trans (hg.indexed i hi))
    hacc.dependents hacc.mem
    fun hin => absurd .refl (hacc.noCycle i hin)

/-- The state of a cell that failed reads what it did. -/
private theorem follows_failed (hg : g.Wired) (hi : i ∈ g) :
    g.commit (g.cellAt i) { g.cellAt i with value := none } =
        .ok (g.rewire (g.cellAt i) { g.cellAt i with value := none }) ∧
      Follows g (g.rewire (g.cellAt i) { g.cellAt i with value := none }) := by
  have hindex : (g.cellAt i).index = i := hg.indexed i hi
  have hmem : ∀ j ∈ (g.cellAt i).dependencies, j ∈ g := fun j hj =>
    hg.closed_dependencies i j (reads_iff.mpr ⟨hi, hj⟩)
  exact ⟨hg.commit hi hindex hmem,
    hg.follows_rewire hi hindex rfl hmem fun hin => reads_iff.mpr ⟨hi, hin⟩⟩

-- =================================================================== steps

theorem follows_edit (hg : g.Wired) (hi : i ∈ g)
    (hedit : g.edit i content s = .ok (.ok h)) :
    Follows g h := by
  obtain ⟨new, -, hacc, rfl⟩ := accepted_of_edit hg.indexed
    hg.closed_dependencies hi hedit
  exact hg.follows_accepted hi hacc

theorem follows_recompute (hp : p.grid.Wired) (hi : i ∈ p.grid)
    (h : p.recompute s i = .ok p') : Follows p.grid p'.grid := by
  obtain ⟨result, heval⟩ := evaluate_of_recompute h
  have hcommit : p.grid.commit (p.grid.cellAt i)
    ((p.grid.cellAt i).recomputed result) =
        .ok (p.advance i result).grid ∧ Follows p.grid
          (p.advance i result).grid := by
    cases result with
    | error err => exact hp.follows_failed hi
    | ok new =>
        have hacc := evaluate_ok hp.closed_dependencies heval
        exact ⟨hacc.commit hp.indexed hp.closed_dependencies hi,
          hp.follows_accepted hi hacc⟩
  cases h.symm.trans (recompute_eq_advance hi heval hcommit.1)
  exact hcommit.2

theorem follows_propagate (hg : g.Wired) (hroot : root ∈ g)
    (h : g.propagate root s = .ok p) : Follows g p.grid := by
  obtain ⟨order, heq, hmem⟩ := mem_recomputationOrder hg.closed_dependents hroot
  have horder : ∀ i ∈ order, i ∈ g := fun i hi =>
    hg.closed_dependents.mem_of_reach hroot ((hmem i).mp hi).2
  rw [propagate_of_order heq] at h
  refine foldlM_of_recompute (P := Follows g) (p := ⟨g, order, [], []⟩)
    (.refl hg) horder ?_ h
  intro q q' i hq hi hstep
  have hnext := hq.wired.follows_recompute hi hstep
  exact ⟨hq.trans hnext, hnext.size⟩

theorem follows_perform (hg : g.Wired) (hstep : step.index ∈ g) :
    Follows g (g.perform s step) := by
  cases step with
  | edit i content =>
      rcases @perform_edit g s content i with ⟨edited, hedit, heq⟩ | heq
      · rw [heq]
        exact hg.follows_edit hstep hedit
      · rw [heq]
        exact .refl hg
  | propagate root =>
      rcases hprop : g.propagate root s with f | p
      · unfold Grid.perform
        dsimp only
        rw [hprop]
        exact .refl hg
      · rw [perform_propagate hprop]
        exact hg.follows_propagate hstep hprop

end Wired

-- ==================================================================== runs

theorem Wired.follows_run (hg : g.Wired)
    (hsteps : ∀ step ∈ steps, step.2.index ∈ g) :
    Follows g (g.run steps) :=
  (run_of_perform (P := Follows g) (.refl hg) hsteps fun _ hh _ _ hindex =>
    have hnext := hh.wired.follows_perform hindex
    ⟨hh.trans hnext, hnext.size, hnext.numCols⟩).1

section

variable (hg : g.Indexed) (hdependencies : g.Closed Cell.dependencies)
  (hdependents : g.Closed Cell.dependents) (hagree : g.brokenEdges = .ok [])

include hg hdependencies hdependents hagree

private theorem wired_of_brokenEdges : g.Wired :=
  ⟨hg, hdependencies, hdependents, fun a b _ =>
    (brokenEdges_eq_nil_iff hg hdependencies hdependents).mp hagree a b⟩

/-- After a run from a grid whose directions agree, the check reports the cells
that ceased to read themselves, each as a pair of itself. -/
theorem brokenEdges_of_run (hsteps : ∀ step ∈ steps, step.2.index ∈ g) :
    ∃ broken, (g.run steps).brokenEdges = .ok broken ∧
      ∀ a b, (a, b) ∈ broken ↔ a = b ∧ g.Reads a a ∧
      ¬ (g.run steps).Reads a a :=
  ((wired_of_brokenEdges hg hdependencies hdependents hagree).follows_run
    hsteps).brokenEdges_spec
    ((brokenEdges_eq_nil_iff hg hdependencies hdependents).mp hagree)

/-- On a grid whose directions agree, circles and cells that read themselves
included: after an accepted edit the check reports the edited cell if it read
itself before, and after a propagation the cells that ceased to read themselves.
Each is reported as a pair of itself, and nothing else is. -/
theorem brokenEdges_of_step (hi : i ∈ g) :
    (∀ content s h, g.edit i content s = .ok (.ok h) →
      ∃ broken, h.brokenEdges = .ok broken ∧
        ∀ a b, (a, b) ∈ broken ↔ a = i ∧ b = i ∧ g.Reads i i) ∧
    ∀ s p, g.propagate i s = .ok p → ∃ broken, p.grid.brokenEdges = .ok broken ∧
      ∀ a b, (a, b) ∈ broken ↔ a = b ∧ g.Reads a a ∧ ¬ p.grid.Reads a a := by
  have hwired := wired_of_brokenEdges hg hdependencies hdependents hagree
  have hagree := (brokenEdges_eq_nil_iff hg hdependencies hdependents).mp hagree
  constructor
  · intro content s h hedit
    obtain ⟨broken, heq, hmem⟩ :=
      (hwired.follows_edit hi hedit).brokenEdges_spec hagree
    refine ⟨broken, heq, fun a b => ?_⟩
    obtain ⟨new, -, hacc, rfl⟩ := accepted_of_edit hg hdependencies hi hedit
    have hnotin : i ∉ new.dependencies := fun hin => hacc.noCycle i hin .refl
    rw [hmem, reads_rewire_iff hi (hacc.index.trans (hg i hi))]
    by_cases ha : a = i
    · subst ha
      rw [if_pos rfl]
      exact ⟨fun h => ⟨rfl, h.1.symm, h.2.1⟩,
        fun h => ⟨h.2.1.symm, h.2.2, hnotin⟩⟩
    · rw [if_neg ha]
      exact iff_of_false (fun h => h.2.2 h.2.1) fun h => ha h.1
  · intro s p hprop
    exact (hwired.follows_propagate hi hprop).brokenEdges_spec hagree

end

/-- The third cell reads itself, and a number takes that away. -/
theorem brokenEdges_of_step_entwined :
    ∃ h, entwined.edit 2 "7" .standard = .ok (.ok h) ∧
      ∃ broken, h.brokenEdges = .ok broken ∧
      ∀ a b, (a, b) ∈ broken ↔ a = 2 ∧ b = 2 ∧ entwined.Reads 2 2 := by
  have haccepted : ((entwined.edit 2 "7" .standard).toOption.bind
    Except.toOption).map Grid.numCols = some 2 := by decide +kernel
  obtain ⟨h, hedit, -⟩ := exists_ok_of_map haccepted
  exact ⟨h, hedit, (brokenEdges_of_step (indexed_of_cells (by decide))
    (closed_of_cells (by decide)) (closed_of_cells (by decide))
      (by decide +kernel) (by decide)).1 "7" .standard h hedit⟩

/-- The second cell reads itself, and its content does not say so. -/
def looped : Grid :=
    ⟨#[⟨0, "5", some 5, [], [1]⟩, ⟨1, "=A0", none, [0, 1], [1]⟩], 2⟩

/-- The check passes, and fails after an edit of the second cell as well as
after a propagation. -/
theorem brokenEdges_of_step_looped :
    looped.Indexed ∧ looped.Closed Cell.dependencies ∧
    looped.Closed Cell.dependents ∧ looped.brokenEdges = .ok [] ∧
      (∃ h, looped.edit 1 "7" .standard = .ok (.ok h) ∧
        h.brokenEdges = .ok [(1, 1)]) ∧
      ∃ p, looped.propagate 0 .standard = .ok p ∧
        p.grid.brokenEdges = .ok [(1, 1)] := by
  have hedit : ((looped.edit 1 "7" .standard).toOption.bind Except.toOption).map
      brokenEdges = some (.ok [(1, 1)]) := by decide +kernel
  have hpropagate : (looped.propagate 0 .standard).toOption.map
    (·.grid.brokenEdges) = some (.ok [(1, 1)]) := by decide +kernel
  refine ⟨indexed_of_cells (by decide), closed_of_cells (by decide),
    closed_of_cells (by decide), by decide +kernel, exists_ok_of_map hedit, ?_⟩
  rcases hprop : looped.propagate 0 .standard with f | p
  · rw [hprop] at hpropagate
    cases hpropagate
  · rw [hprop] at hpropagate
    exact ⟨p, rfl, Option.some.inj hpropagate⟩

end Grid

end Worksheet
