/-
Runs under one settings: the edges show what the contents say.

An accepted edit changes one cell and the dependents of others. The changed
cell records the references of its new content, and a propagation changes
values only. So on every grid that a run reaches from an empty one the
dependencies of a cell are the references of its content, in the order in
which they are written and each once, whether or not the cell has a value.

That a cell which fails keeps its edges is what makes this true: its
content is the one that was accepted, and the references in it are those
of the evaluation back then.
-/
import Worksheet.Proofs.Grid.Pass

namespace Worksheet

open Relation (ReflTransGen TransGen)

namespace Grid

variable {g h : Grid} {s : Settings} {new : Cell} {i j x : Int}
  {step : Step} {steps : List Step}

-- ============================================================== rewiring

/-- One cell has a new state; of the others at most the dependents differ. -/
structure Rewired (g : Grid) (i : Int) (new : Cell) (h : Grid) : Prop where
  size : h.size = g.size
  numCols : h.numCols = g.numCols
  self : h.cellAt i = new
  other : ∀ x ∈ g, x ≠ i → h.cellAt x = { g.cellAt x
      with dependents := (h.cellAt x).dependents }

namespace Rewired

theorem of_rewire (hi : i ∈ g) (hindex : new.index = i) :
    Rewired g i new (g.rewire (g.cellAt i) new) := by
  subst hindex
  refine ⟨size_rewire, numCols_rewire, cellAt_rewire_self hi,
    fun x hx hne => ?_⟩
  rw [cellAt_rewire_ne hi hx hne]
  exact EdgeDiff.patch_eq

theorem mem (hr : Rewired g i new h) : x ∈ h ↔ x ∈ g := mem_congr hr.size

theorem content (hr : Rewired g i new h) (hx : x ∈ g) (hne : x ≠ i) :
    (h.cellAt x).content = (g.cellAt x).content := by
  rw [hr.other x hx hne]

theorem value (hr : Rewired g i new h) (hx : x ∈ g) (hne : x ≠ i) :
    (h.cellAt x).value = (g.cellAt x).value := by
  rw [hr.other x hx hne]

theorem dependencies (hr : Rewired g i new h) (hx : x ∈ g) (hne : x ≠ i) :
    (h.cellAt x).dependencies = (g.cellAt x).dependencies := by
  rw [hr.other x hx hne]

/-- The edges out of the other cells are the same. -/
theorem reads (hr : Rewired g i new h) (hne : x ≠ i) :
    h.Reads x j ↔ g.Reads x j := by
  rw [reads_iff, reads_iff, hr.mem]
  refine and_congr_right fun hx => ?_
  rw [hr.dependencies hx hne]

end Rewired

-- =========================================================== faithfulness

theorem body?_empty : s.body? "" = none := by
  unfold Settings.body?
  rw [Option.filter_eq_none_iff]
  intro formula hformula
  unfold Settings.formula? at hformula
  split at hformula
  · cases hformula
    simp [Text.allBlank]
  · cases hformula

namespace Faithful

/-- Blank cells have no references and record none. -/
theorem of_empty {numCols numRows : Int}
    (hstart : Grid.empty numCols numRows = .ok g) :
    g.Faithful s := by
  refine ⟨.of_empty hstart, fun i hi => ?_⟩
  rw [cellAt_empty hstart hi]
  unfold Records Cell.blank
  rw [body?_empty]

/-- An accepted edit leads to a faithful grid that is rewired at the edited
cell. -/
theorem edit_ok {content : String} (hg : g.Faithful s) (hi : i ∈ g)
    (hedit : g.edit i content s = .ok (.ok h)) :
    ∃ new, g.evaluate i content s = .ok (.ok new) ∧ g.Accepted s i content new ∧
      Rewired g i new h ∧ h.Faithful s := by
  obtain ⟨new, heval, hacc, rfl⟩ := hg.toCoherent.edit_ok hi hedit
  have hr := Rewired.of_rewire hi (hacc.index.trans (hg.indexed i hi))
  refine ⟨new, heval, hacc, hr, (hg.toCoherent.commit_accepted hi hacc).2,
    fun x hx => ?_⟩
  have hx' := hr.mem.mp hx
  by_cases hne : x = i
  · rw [hne, hr.self, hacc.typed]
    exact hacc.records.congr hr.size hr.numCols
  · rw [hr.content hx' hne, hr.dependencies hx' hne]
    exact (hg.records x hx').congr hr.size hr.numCols

/-- A step keeps the grid faithful and its shape as it is. -/
theorem perform (hg : g.Faithful s) (hstep : step.index ∈ g) :
    (g.perform s step).Faithful s ∧ (g.perform s step).size = g.size ∧
      (g.perform s step).numCols = g.numCols := by
  cases step with
  | edit i content =>
      rcases @perform_edit g s content i with ⟨edited, hedit, heq⟩ | heq
      · obtain ⟨new, -, -, hr, hfaithful⟩ := hg.edit_ok hstep hedit
        rw [heq]
        exact ⟨hfaithful, hr.size, hr.numCols⟩
      · rw [heq]
        exact ⟨hg, rfl, rfl⟩
  | propagate root =>
      have hroot : root ∈ g := hstep
      obtain ⟨p, hprop, hr, -, -⟩ := hg.propagate_spec hroot
      rw [perform_propagate hprop]
      exact ⟨hr.faithful hg, hr.size, hr.numCols⟩

/-- So does a run. -/
theorem runUnder (hg : g.Faithful s) (hsteps : ∀ step ∈ steps, step.index ∈ g) :
    (g.runUnder s steps).Faithful s ∧ (g.runUnder s steps).size = g.size ∧
      (g.runUnder s steps).numCols = g.numCols := by
  rw [runUnder_eq_run]
  refine run_of_perform hg (fun step hstep => ?_)
    fun h hh step hstep hindex => ?_
  · obtain ⟨step, hmem, rfl⟩ := List.mem_map.mp hstep
    exact hsteps step hmem
  · obtain ⟨step, -, rfl⟩ := List.mem_map.mp hstep
    exact hh.perform hindex

end Faithful

/-- The dependencies that a cell has after a run from an empty grid are the
references of its content, each once. A formula with something behind the
marker is therefore one that can be read, and every other content has none. -/
theorem dependencies_eq_references {numCols numRows : Int}
    (hstart : Grid.empty numCols numRows = .ok g)
    (hsteps : ∀ step ∈ steps, step.index ∈ g) (hi : i ∈ g) :
    (∀ formula,
      s.formula? ((g.runUnder s steps).cellAt i).content = some formula →
      Text.allBlank formula = false → ∃ tree refs,
        Expr.ofText s.registry.names s.maxLength formula = .ok (.ok tree) ∧
        tree.references (g.runUnder s steps) = .ok refs ∧
        (∀ k ∈ refs, k ∈ g.runUnder s steps) ∧
        ((g.runUnder s steps).cellAt i).dependencies = refs.eraseDups) ∧
      ((∀ formula,
        s.formula? ((g.runUnder s steps).cellAt i).content = some formula →
        Text.allBlank formula = true) →
          ((g.runUnder s steps).cellAt i).dependencies = []) := by
  obtain ⟨hfaithful, hsize, -⟩ := (Faithful.of_empty hstart).runUnder hsteps
  have hi' : i ∈ g.runUnder s steps := (mem_congr hsize).mpr hi
  have hrec := hfaithful.records i hi'
  unfold Records at hrec
  constructor
  · intro formula hformula hblank
    rw [Settings.body?_eq_some_iff.mpr ⟨hformula, hblank⟩] at hrec
    obtain ⟨tree, refs, hparse, -, hrefs, hon, hdeps⟩ := hrec
    exact ⟨tree, refs, hparse, hrefs, hon, hdeps⟩
  · intro hnone
    cases hbody : s.body? ((g.runUnder s steps).cellAt i).content with
    | none =>
        rw [hbody] at hrec
        exact hrec
    | some formula =>
        obtain ⟨hformula, hblank⟩ := Settings.body?_eq_some_iff.mp hbody
        rw [hnone formula hformula] at hblank
        cases hblank

/-- The second cell reads the first one twice, and fails since that holds a
text. -/
theorem dependencies_eq_references_failed :
    let last := twoCells.runUnder .standard
      [.edit 0 "5", .edit 1 "=A0+A0", .edit 0 "text", .propagate 0]
    ∃ tree refs, Expr.ofText Settings.standard.registry.names none "A0+A0" =
      .ok (.ok tree) ∧
      tree.references last = .ok refs ∧ (∀ k ∈ refs, k ∈ last) ∧
      (last.cellAt 1).dependencies = refs.eraseDups :=
  (dependencies_eq_references empty_twoCells (by decide) (by decide)).1 "A0+A0"
    (by decide +kernel) (by decide)

end Grid

end Worksheet
