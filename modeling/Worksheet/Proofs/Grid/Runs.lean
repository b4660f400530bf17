/-
Runs: edits and propagations, one after another, in any order.

A run does not stop at a step that is refused or cannot be carried out; the
grid just stays as it is. Every step may have settings of its own. Each
accepted edit and each cell of a propagation ends in one commit, and what
evaluation guarantees of an accepted state is just what a commit needs to
keep the grid coherent. A cell that fails is committed with the edges that
it has, and these led back to it no more than before.

A propagation walks an order that is made before its first commit. The
order stays valid whatever the commits do to the edges, since it only has
to name cells on the grid.
-/
import Worksheet.Proofs.Grid.Evaluate

namespace Worksheet

open Relation (ReflTransGen TransGen)

-- ================================================================== steps

/-- What can be done to a grid: put a content into a cell, or compute
everything again that depends on a cell. -/
inductive Step where
  | edit (index : Int) (content : String)
  | propagate (root : Int)
deriving DecidableEq, Repr

/-- The cell that a step is about. -/
def Step.index : Step → Int
  | .edit i _ => i
  | .propagate root => root

/-- The propagation after one more cell is computed again, with the given
result. -/
def Propagation.advance (p : Propagation) (i : Int)
    (result : Except FormulaError Cell) :
    Propagation :=
  let old := p.grid.cellAt i
  let new := old.recomputed result
  ⟨p.grid.rewire old new, p.visited, p.deltas ++ Delta.between i old new,
    p.errors ++ EditError.ofResult i result⟩

namespace Grid

variable {g g' : Grid} {s : Settings} {content : String} {new : Cell}
  {i root : Int} {p p' : Propagation} {order : List Int} {step : Step}
  {steps : List (Settings × Step)}

/-- The grid after a step; it stays as it is when the step is refused or
cannot be carried out. -/
def perform (g : Grid) (s : Settings) : Step → Grid
  | .edit i content =>
    match g.edit i content s with
    | .ok (.ok edited) => edited
    | _ => g
  | .propagate root =>
    match g.propagate root s with
    | .ok p => p.grid
    | .error _ => g

/-- The grid after some steps, each under its own settings. -/
def run (g : Grid) (steps : List (Settings × Step)) : Grid :=
  steps.foldl (fun g step => g.perform step.1 step.2) g

/-- The grid after some steps that are all taken under the same settings. -/
def runUnder (g : Grid) (s : Settings) (steps : List Step) : Grid :=
  steps.foldl (fun g step => g.perform s step) g

theorem runUnder_eq_run {steps : List Step} :
    g.runUnder s steps = g.run (steps.map (s, ·)) := by
  unfold run runUnder
  rw [List.foldl_map]

/-- What every step of a run preserves, together with the shape of the grid, the
run preserves. -/
theorem run_of_perform {P : Grid → Prop} (hg : P g)
    (hsteps : ∀ step ∈ steps, step.2.index ∈ g)
    (hperform : ∀ h, P h → ∀ step ∈ steps, step.2.index ∈ h →
      P (h.perform step.1 step.2) ∧ (h.perform step.1 step.2).size = h.size ∧
      (h.perform step.1 step.2).numCols = h.numCols) :
    P (g.run steps) ∧ (g.run steps).size = g.size ∧
      (g.run steps).numCols = g.numCols := by
  induction steps generalizing g with
  | nil => exact ⟨hg, rfl, rfl⟩
  | cons step steps ih =>
      obtain ⟨hmid, hsize, hcols⟩ := hperform g hg step List.mem_cons_self
        (hsteps step List.mem_cons_self)
      obtain ⟨hlast, hsize', hcols'⟩ := ih hmid
        (fun next hnext => (mem_congr hsize).mpr
          (hsteps next (List.mem_cons_of_mem _ hnext)))
        fun h hh next hnext => hperform h hh next (List.mem_cons_of_mem _ hnext)
      exact ⟨hlast, hsize'.trans hsize, hcols'.trans hcols⟩

/-- An edit step puts the accepted grid in the place of the old one, or does
nothing. -/
theorem perform_edit : (∃ edited, g.edit i content s = .ok (.ok edited) ∧
    g.perform s (.edit i content) = edited) ∨
      g.perform s (.edit i content) = g := by
  unfold perform
  dsimp only
  rcases g.edit i content s with f | (err | edited)
  · exact Or.inr rfl
  · exact Or.inr rfl
  · exact Or.inl ⟨edited, rfl, rfl⟩

theorem perform_propagate (hprop : g.propagate root s = .ok p) :
    g.perform s (.propagate root) = p.grid := by
  unfold perform
  dsimp only
  rw [hprop]

/-- Everywhere on an empty grid there is a blank cell. -/
theorem cellAt_empty {numCols numRows : Int}
    (hstart : Grid.empty numCols numRows = .ok g)
    (hi : i ∈ g) : g.cellAt i = Cell.blank i := by
  unfold Grid.empty at hstart
  split at hstart
  · cases hstart
    have hget := getElem?_of_mem hi
    rw [Array.getElem?_ofFn] at hget
    split at hget
    · have hcell := Option.some.inj hget
      rw [← hcell]
      show Cell.blank (i.toNat : Int) = Cell.blank i
      rw [Int.toNat_of_nonneg hi.1]
    · cases hget
  · cases hstart

theorem Coherent.of_empty {numCols numRows : Int}
    (hstart : Grid.empty numCols numRows = .ok g) : g.Coherent :=
  .of_blank fun _ hi => cellAt_empty hstart hi

-- ================================================================ commits

/-- A state that evaluation accepts can be committed, whatever the other edges
are like. -/
theorem Accepted.commit (hg : g.Indexed) (hclosed : g.Closed Cell.dependencies)
    (hi : i ∈ g) (hacc : g.Accepted s i content new) :
    g.commit (g.cellAt i) new = .ok (g.rewire (g.cellAt i) new) := by
  have hindex : new.index = i := hacc.index.trans (hg i hi)
  refine commit_of_mem hg ?_ (fun k hk => hclosed i k (reads_iff.mpr ⟨hi, hk⟩))
    hacc.mem
  rwa [hindex]

/-- An edit that is accepted evaluates the content and commits what it comes
to. -/
theorem editBy_eq_ok {formulas : Evaluator}
    (hedit : g.editBy formulas i content s = .ok (.ok g')) :
    ∃ new, g.cell i = .ok (g.cellAt i) ∧
      g.evaluateBy formulas i content s = .ok (.ok new) ∧
      g.commit (g.cellAt i) new = .ok g' := by
  unfold editBy at hedit
  obtain ⟨result, heval, hedit⟩ := bind_ok hedit
  cases result with
  | error err => cases hedit
  | ok new =>
      obtain ⟨old, hold, hedit⟩ := bind_ok hedit
      obtain ⟨committed, hcommit, hedit⟩ := bind_ok hedit
      cases hedit
      rw [cellAt_of_cell hold]
      exact ⟨new, hold, heval, hcommit⟩

theorem edit_eq_ok (hedit : g.edit i content s = .ok (.ok g')) :
    ∃ new, g.cell i = .ok (g.cellAt i) ∧
      g.evaluate i content s = .ok (.ok new) ∧
      g.commit (g.cellAt i) new = .ok g' :=
  editBy_eq_ok hedit

/-- Conversely an edit is accepted if what its content comes to can be
committed. -/
theorem edit_of_commit (hi : i ∈ g)
    (heval : g.evaluate i content s = .ok (.ok new))
    (hcommit : g.commit (g.cellAt i) new = .ok g') :
    g.edit i content s = .ok (.ok g') := by
  show (g.evaluate i content s >>= _) = _
  rw [heval, cell_of_mem hi]
  show (do return .ok (← g.commit (g.cellAt i) new) : Except Fault
    (Except EditError Grid)) = _
  rw [hcommit]
  rfl

/-- An accepted edit is the commit of an accepted state. -/
theorem accepted_of_edit (hg : g.Indexed) (hclosed : g.Closed Cell.dependencies)
    (hi : i ∈ g) (hedit : g.edit i content s = .ok (.ok g')) :
    ∃ new, g.evaluate i content s = .ok (.ok new) ∧ g.Accepted s i content new ∧
      g' = g.rewire (g.cellAt i) new := by
  obtain ⟨new, -, heval, hcommit⟩ := edit_eq_ok hedit
  have hacc := evaluate_ok hclosed heval
  exact ⟨new, heval, hacc, Except.ok.inj
    (hcommit.symm.trans (hacc.commit hg hclosed hi))⟩

/-- A cell that can be evaluated can be computed again if what comes of it can
be committed. -/
theorem recompute_eq_advance {result : Except FormulaError Cell}
    (hi : i ∈ p.grid)
    (heval : p.grid.evaluate i (p.grid.cellAt i).content s = .ok result)
    (hcommit : p.grid.commit (p.grid.cellAt i)
      ((p.grid.cellAt i).recomputed result) = .ok (p.advance i result).grid) :
    p.recompute s i = .ok (p.advance i result) := by
  unfold Propagation.recompute Propagation.recomputeBy
  rw [cell_of_mem hi]
  show (do
    let result ← p.grid.evaluate i (p.grid.cellAt i).content s
    return (⟨← p.grid.commit (p.grid.cellAt i)
      ((p.grid.cellAt i).recomputed result), _, _, _⟩ :
      Propagation)) = _
  rw [heval]
  show (do return (⟨← p.grid.commit _ _, _, _, _⟩ : Propagation)) = _
  rw [hcommit]
  rfl

/-- A cell that was computed again has been evaluated. -/
theorem evaluate_of_recompute (h : p.recompute s i = .ok p') :
    ∃ result, p.grid.evaluate i (p.grid.cellAt i).content s = .ok result := by
  unfold Propagation.recompute Propagation.recomputeBy at h
  obtain ⟨old, hold, h⟩ := bind_ok h
  obtain ⟨result, heval, -⟩ := bind_ok h
  rw [← cellAt_of_cell hold] at heval
  exact ⟨result, heval⟩

/-- A propagation is a pass in the order that is found first. -/
theorem propagateBy_of_order {formulas : Evaluator}
    (heq : g.recomputationOrder root = .ok order) :
    g.propagateBy formulas root s =
      order.foldlM (Propagation.recomputeBy formulas s) ⟨g, order, [], []⟩ := by
  unfold propagateBy
  rw [heq]
  rfl

theorem propagate_of_order (heq : g.recomputationOrder root = .ok order) :
    g.propagate root s =
      order.foldlM (Propagation.recompute s) ⟨g, order, [], []⟩ :=
  propagateBy_of_order heq

/-- What every recomputation preserves, together with the number of cells, a
pass preserves. -/
theorem foldlM_of_recompute {P : Grid → Prop} (hp : P p.grid)
    (horder : ∀ i ∈ order, i ∈ p.grid)
    (hstep : ∀ {q q' : Propagation} {i : Int}, P q.grid → i ∈ q.grid →
      q.recompute s i = .ok q' → P q'.grid ∧ q'.grid.size = q.grid.size)
    (h : order.foldlM (Propagation.recompute s) p = .ok p') : P p'.grid := by
  induction order generalizing p with
  | nil =>
      cases h
      exact hp
  | cons i order ih =>
      rw [List.foldlM_cons] at h
      obtain ⟨mid, hmid, h⟩ := bind_ok h
      obtain ⟨hP, hsize⟩ := hstep hp (horder i List.mem_cons_self) hmid
      exact ih hP (fun k hk => (mem_congr hsize).mpr
        (horder k (List.mem_cons_of_mem _ hk))) h

namespace Coherent

/-- A state that evaluation accepts can be committed, and the graph stays
coherent. -/
theorem commit_accepted (hg : g.Coherent) (hi : i ∈ g)
    (hacc : g.Accepted s i content new) :
    g.commit (g.cellAt i) new = .ok (g.rewire (g.cellAt i) new) ∧
      (g.rewire (g.cellAt i) new).Coherent := by
  have hindex : new.index = i := hacc.index.trans (hg.indexed i hi)
  exact ⟨hacc.commit hg.indexed hg.closed_dependencies hi,
    hg.rewire hi hindex hacc.dependents hacc.mem hacc.nodup hacc.noCycle⟩

/-- So can the state of a cell with any other value. -/
theorem commit_value (hg : g.Coherent) (hi : i ∈ g) (v : Option Float) :
    g.commit (g.cellAt i) { g.cellAt i with value := v } =
        .ok (g.rewire (g.cellAt i) { g.cellAt i with value := v }) ∧
      (g.rewire (g.cellAt i) { g.cellAt i with value := v }).Coherent := by
  have hindex : (g.cellAt i).index = i := hg.indexed i hi
  have hdeps := hg.dependencies_mem i hi
  exact ⟨hg.wired.commit hi hindex hdeps,
    hg.rewire hi hindex rfl hdeps (hg.dependencies_nodup i hi) (hg.noCycle hi)⟩

theorem edit_ok (hg : g.Coherent) (hi : i ∈ g)
    (hedit : g.edit i content s = .ok (.ok g')) :
    ∃ new, g.evaluate i content s = .ok (.ok new) ∧ g.Accepted s i content new ∧
      g' = g.rewire (g.cellAt i) new :=
  accepted_of_edit hg.indexed hg.closed_dependencies hi hedit

/-- A cell that can be evaluated can be computed again, whatever comes of it. -/
theorem recompute_of_evaluate {result : Except FormulaError Cell}
    (hp : p.grid.Coherent) (hi : i ∈ p.grid)
    (heval : p.grid.evaluate i (p.grid.cellAt i).content s = .ok result) :
    p.recompute s i = .ok (p.advance i result) ∧
      (p.advance i result).grid.Coherent := by
  have hcommit : p.grid.commit (p.grid.cellAt i)
    ((p.grid.cellAt i).recomputed result) =
        .ok (p.advance i result).grid ∧ (p.advance i result).grid.Coherent := by
    cases result with
    | error err => exact hp.commit_value hi none
    | ok new =>
        exact hp.commit_accepted hi (evaluate_ok hp.closed_dependencies heval)
  exact ⟨recompute_eq_advance hi heval hcommit.1, hcommit.2⟩

theorem recompute_ok (hp : p.grid.Coherent) (hi : i ∈ p.grid)
    (h : p.recompute s i = .ok p') :
    ∃ result, p.grid.evaluate i (p.grid.cellAt i).content s = .ok result ∧
      p' = p.advance i result ∧ p'.grid.Coherent := by
  obtain ⟨result, heval⟩ := evaluate_of_recompute h
  obtain ⟨heq, hcoherent⟩ := recompute_of_evaluate hp hi heval
  rw [heq] at h
  cases h
  exact ⟨result, heval, rfl, hcoherent⟩

-- ================================================================= passes

/-- Cells of the grid can be computed again in any order. -/
theorem foldlM_recompute (hp : p.grid.Coherent)
    (horder : ∀ i ∈ order, i ∈ p.grid)
    (h : order.foldlM (Propagation.recompute s) p = .ok p') :
    p'.grid.Coherent ∧ p'.grid.size = p.grid.size ∧
      p'.grid.numCols = p.grid.numCols := by
  refine foldlM_of_recompute (P := fun h => h.Coherent ∧ h.size = p.grid.size ∧
    h.numCols = p.grid.numCols) ⟨hp, rfl, rfl⟩ horder ?_ h
  rintro q q' i ⟨hq, hsize, hcols⟩ hi hstep
  obtain ⟨result, -, rfl, hcoherent⟩ := recompute_ok hq hi hstep
  exact ⟨⟨hcoherent, size_rewire.trans hsize, numCols_rewire.trans hcols⟩,
    size_rewire⟩

theorem propagate_ok (hg : g.Coherent) (hroot : root ∈ g)
    (h : g.propagate root s = .ok p) :
    p.grid.Coherent ∧ p.grid.size = g.size ∧ p.grid.numCols = g.numCols := by
  obtain ⟨order, heq, -, hmem, -⟩ := hg.order_spec hroot
  rw [propagate_of_order heq] at h
  exact foldlM_recompute (p := ⟨g, order, [], []⟩)
    hg (fun i hi => mem_of_path ((hmem i).mp hi)) h

-- =================================================================== runs

/-- A step keeps the grid coherent and its shape as it is. -/
theorem perform (hg : g.Coherent) (hstep : step.index ∈ g) :
    (g.perform s step).Coherent ∧ (g.perform s step).size = g.size ∧
      (g.perform s step).numCols = g.numCols := by
  cases step with
  | edit i content =>
      rcases @perform_edit g s content i with ⟨edited, hedit, heq⟩ | heq
      · obtain ⟨new, -, hacc, rfl⟩ := hg.edit_ok hstep hedit
        rw [heq]
        exact ⟨(hg.commit_accepted hstep hacc).2, size_rewire, numCols_rewire⟩
      · rw [heq]
        exact ⟨hg, rfl, rfl⟩
  | propagate root =>
      rcases hprop : g.propagate root s with f | p
      · unfold Grid.perform
        dsimp only
        rw [hprop]
        exact ⟨hg, rfl, rfl⟩
      · rw [perform_propagate hprop]
        exact hg.propagate_ok hstep hprop

/-- So does a run. -/
theorem run (hg : g.Coherent) (hsteps : ∀ step ∈ steps, step.2.index ∈ g) :
    (g.run steps).Coherent ∧ (g.run steps).size = g.size ∧
      (g.run steps).numCols = g.numCols :=
  run_of_perform hg hsteps fun _ hh _ _ hindex => hh.perform hindex

end Coherent

/-- Whatever is done to an empty grid, and under whatever settings: its cells
stand at their index, its shape is the one it had, and the two lists of edges
describe one graph on the grid that has no cycle. -/
theorem coherent_of_run {numCols numRows : Int}
    (hstart : Grid.empty numCols numRows = .ok g)
    (hsteps : ∀ step ∈ steps, step.2.index ∈ g) :
    (g.run steps).Coherent ∧ (g.run steps).size = g.size ∧
      (g.run steps).numCols = g.numCols :=
  (Coherent.of_empty hstart).run hsteps

/-- One row of two blank cells. -/
def twoCells : Grid := ⟨#[.blank 0, .blank 1], 2⟩

theorem empty_twoCells : Grid.empty 2 1 = .ok twoCells := rfl

/-- For the other marker the formula of the second cell is a text, and the two
cells change places as the one that is read. -/
theorem coherent_of_run_two_markers :
    let steps : List (Settings × Step) :=
      [(.standard, .edit 0 "5"), (.standard, .edit 1 "=A0+1"),
      (⟨"#", none, none⟩, .propagate 0), (.standard, .edit 1 "7"),
      (.standard, .edit 0 "=B0")]
    (twoCells.run steps).Coherent ∧ (twoCells.run steps).size = twoCells.size ∧
      (twoCells.run steps).numCols = twoCells.numCols :=
  coherent_of_run empty_twoCells (by decide)

end Grid

end Worksheet
