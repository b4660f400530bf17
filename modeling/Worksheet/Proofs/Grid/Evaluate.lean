/-
The state that a cell takes on with a content.

Only a formula with something behind the marker is evaluated; every other
content reads nothing. What an accepted content comes to is collected in
one statement (`evaluate_ok`): the cell keeps its index and its dependents,
and its dependencies are exactly the references of the formula, each once,
all of them on the grid and none leading back to the cell.

What else the grid holds is not seen: a content that is accepted comes to the
same on every grid of this shape that agrees with it on the dependencies.

The dependencies of a cell can therefore be compared with its content
(`Records`). A grid on which they match in every cell, and whose graph is
coherent, is faithful. There the content of a cell can be evaluated again at
any time: it gives the same dependencies, and a value that depends on the
values of these alone (`Faithful.evaluate`, `Faithful.worth_congr`).
-/
import Worksheet.Grid.Propagate
import Worksheet.Proofs.Expr.References
import Worksheet.Proofs.Grid.Graph

namespace Worksheet

open Relation (ReflTransGen TransGen)

variable {s : Settings} {content formula : String}

-- =============================================================== contents

namespace Settings

/-- The formula in a content that is to be evaluated: one that is not blank. -/
def body? (s : Settings) (content : String) : Option String :=
  (s.formula? content).filter (!Text.allBlank ·)

/-- The value of a content that is not to be evaluated. -/
def constant (s : Settings) (content : String) : Option Float :=
  match s.formula? content with
  | none => numberOfContent? content
  | some _ => none

theorem body?_eq_some_iff :
    s.body? content = some formula ↔ s.formula? content = some formula ∧
      Text.allBlank formula = false := by
  unfold body?
  rw [Option.filter_eq_some_iff]
  simp

/-- Behind the marker a text is a formula. -/
theorem formula?_marker :
    s.formula? (s.marker ++ formula) = some formula := by
  unfold formula?
  rw [String.toList_append, List.drop_left, String.ofList_toList]
  exact if_pos (by simp)

/-- A text that has a character to show is to be evaluated there. -/
theorem body?_marker {c : Char} (hc : c ∈ formula.toList)
    (hblank : Text.isBlank c = false) :
    s.body? (s.marker ++ formula) = some formula := by
  refine body?_eq_some_iff.mpr ⟨formula?_marker, ?_⟩
  exact List.all_eq_false.mpr ⟨c, hc, by simp [hblank]⟩

end Settings

namespace Grid

variable {g h : Grid} {i k : Int} {new : Cell} {e : Evaluation}

section

variable {formulas : Evaluator} {c : Cell}

/-- What is evaluated is the content of a cell. -/
theorem cell_of_evaluateBy {result : Except FormulaError Cell}
    (h : g.evaluateBy formulas i content s = .ok result) :
    g.cell i = .ok (g.cellAt i) := by
  unfold evaluateBy at h
  obtain ⟨c, hcell, -⟩ := bind_ok h
  rw [cellAt_of_cell hcell]
  exact hcell

/-- A content that is not to be evaluated is kept with its constant. -/
theorem evaluateBy_constant (hcell : g.cell i = .ok c)
    (hbody : s.body? content = none) :
    g.evaluateBy formulas i content s =
      .ok (.ok (c.withConstant content (s.constant content))) := by
  unfold evaluateBy Settings.constant
  rw [hcell]
  cases hformula : s.formula? content with
  | none => rfl
  | some formula =>
      have hblank : Text.allBlank formula = true := by
        by_contra hnot
        rw [Bool.not_eq_true] at hnot
        rw [Settings.body?_eq_some_iff.mpr ⟨hformula, hnot⟩] at hbody
        cases hbody
      show (if Text.allBlank formula then _ else _) = _
      rw [if_pos hblank]
      rfl

/-- A formula is evaluated in whatever cell an index finds. -/
theorem evaluateBy_formula (hcell : g.cell i = .ok c)
    (hbody : s.body? content = some formula) :
    g.evaluateBy formulas i content s =
      (formulas g i formula s).map (·.map (c.withFormula content)) := by
  obtain ⟨hformula, hblank⟩ := Settings.body?_eq_some_iff.mp hbody
  unfold evaluateBy
  rw [hcell, hformula]
  show (if Text.allBlank formula then _ else _) = _
  rw [hblank]
  cases formulas g i formula s <;> rfl

/-- Only a formula can have an error. -/
theorem evaluateBy_eq_error {err : FormulaError}
    (h : g.evaluateBy formulas i content s = .ok (.error err)) :
    ∃ formula, s.body? content = some formula ∧
      formulas g i formula s = .ok (.error err) := by
  have hcell := cell_of_evaluateBy h
  cases hbody : s.body? content with
  | none =>
      rw [evaluateBy_constant hcell hbody] at h
      cases h
  | some formula =>
      rw [evaluateBy_formula hcell hbody] at h
      refine ⟨formula, rfl, ?_⟩
      rcases hresult : formulas g i formula s with f | (err' | e)
      all_goals
        rw [hresult] at h
        cases h
      rfl

/-- A state that is accepted is that of a constant, or of a formula with a
value. -/
theorem evaluateBy_eq_ok
    (h : g.evaluateBy formulas i content s = .ok (.ok new)) :
    (s.body? content = none ∧
        new = (g.cellAt i).withConstant content (s.constant content)) ∨
      ∃ formula e, s.body? content = some formula ∧
        formulas g i formula s = .ok (.ok e) ∧
        new = (g.cellAt i).withFormula content e := by
  have hcell := cell_of_evaluateBy h
  cases hbody : s.body? content with
  | none =>
      rw [evaluateBy_constant hcell hbody] at h
      cases h
      exact Or.inl ⟨rfl, rfl⟩
  | some formula =>
      rw [evaluateBy_formula hcell hbody] at h
      rcases hresult : formulas g i formula s with f | (err | e)
      all_goals
        rw [hresult] at h
        cases h
      exact Or.inr ⟨formula, e, rfl, hresult, rfl⟩

end

theorem evaluate_constant (hi : i ∈ g) (hbody : s.body? content = none) :
    g.evaluate i content s =
      .ok (.ok ((g.cellAt i).withConstant content (s.constant content))) :=
  evaluateBy_constant (cell_of_mem hi) hbody

theorem evaluate_formula (hi : i ∈ g) (hbody : s.body? content = some formula) :
    g.evaluate i content s = (g.evaluateFormula i formula s).map
      (·.map ((g.cellAt i).withFormula content)) :=
  evaluateBy_formula (cell_of_mem hi) hbody

/-- A formula that is a tree is worth what the tree evaluates to. -/
theorem evaluateFormula_of_tree {tree : Expr}
    (hparse : Expr.ofText s.registry.names s.maxLength formula =
      .ok (.ok tree)) :
    g.evaluateFormula i formula s =
      (tree.evaluate (g.source i) s.registry).1.map (·.mapError .eval) := by
  unfold evaluateFormula
  dsimp only
  rw [hparse]
  show ((tree.evaluate (g.source i) s.registry).1 >>= _) = _
  cases (tree.evaluate (g.source i) s.registry).1 <;> rfl

/-- A formula that is no tree has the error of its text. -/
theorem evaluateFormula_of_error {err : FormulaError}
    (hparse : Expr.ofText s.registry.names s.maxLength formula =
      .ok (.error err)) :
    g.evaluateFormula i formula s = .ok (.error err) := by
  unfold evaluateFormula
  dsimp only
  rw [hparse]
  rfl

theorem evaluateFormula_of_fault {f : Fault}
    (hparse : Expr.ofText s.registry.names s.maxLength formula = .error f) :
    g.evaluateFormula i formula s = .error f := by
  unfold evaluateFormula
  dsimp only
  rw [hparse]
  rfl

/-- What becomes of a formula: it is no tree, or its tree is evaluated, with one
of three outcomes. -/
theorem evaluateFormula_cases (g : Grid) (i : Int) (formula : String)
    (s : Settings) :
    (∃ f, Expr.ofText s.registry.names s.maxLength formula = .error f ∧
      g.evaluateFormula i formula s = .error f) ∨
    (∃ err, Expr.ofText s.registry.names s.maxLength formula =
      .ok (.error err) ∧ g.evaluateFormula i formula s = .ok (.error err)) ∨
    ∃ tree t, Expr.ofText s.registry.names s.maxLength formula =
      .ok (.ok tree) ∧
      ((∃ f, tree.run (g.source i) s.registry .empty = (.error f, t) ∧
        g.evaluateFormula i formula s = .error f) ∨
      (∃ err, tree.run (g.source i) s.registry .empty = (.ok (.error err), t) ∧
        g.evaluateFormula i formula s = .ok (.error (.eval err))) ∨
      ∃ x, tree.run (g.source i) s.registry .empty = (.ok (.ok x), t) ∧
        g.evaluateFormula i formula s = .ok (.ok ⟨x, t.reads.eraseDups⟩)) := by
  rcases hparse : Expr.ofText s.registry.names s.maxLength formula
    with f | (err | tree)
  · exact Or.inl ⟨f, rfl, evaluateFormula_of_fault hparse⟩
  · exact Or.inr (Or.inl ⟨err, rfl, evaluateFormula_of_error hparse⟩)
  · have heval := evaluateFormula_of_tree (g := g) (i := i) hparse
    unfold Expr.evaluate at heval
    rcases hrun : tree.run (g.source i) s.registry .empty
      with ⟨f | (err | x), t⟩
    · rw [hrun] at heval
      exact Or.inr (Or.inr ⟨tree, t, rfl, Or.inl ⟨f, hrun, heval⟩⟩)
    · rw [hrun] at heval
      exact Or.inr (Or.inr ⟨tree, t, rfl, Or.inr (Or.inl ⟨err, hrun, heval⟩)⟩)
    · rw [hrun] at heval
      exact Or.inr (Or.inr ⟨tree, t, rfl, Or.inr (Or.inr ⟨x, hrun, heval⟩)⟩)

-- ======================================================= being accepted

/-- The dependencies are the references of the content, each once. -/
def Records (g : Grid) (s : Settings) (content : String)
    (dependencies : List Int) : Prop :=
  match s.body? content with
  | none => dependencies = []
  | some formula => ∃ tree refs,
      Expr.ofText s.registry.names s.maxLength formula = .ok (.ok tree) ∧
      tree.Sound s.registry ∧ tree.references g = .ok refs ∧
      (∀ k ∈ refs, k ∈ g) ∧ dependencies = refs.eraseDups

theorem Records.congr {dependencies : List Int} (hsize : h.size = g.size)
    (hcols : h.numCols = g.numCols) (hrec : g.Records s content dependencies) :
    h.Records s content dependencies := by
  unfold Records at hrec ⊢
  cases hbody : s.body? content with
  | none =>
      rw [hbody] at hrec
      exact hrec
  | some formula =>
      rw [hbody] at hrec
      obtain ⟨tree, refs, hparse, hsound, hrefs, hon, hdeps⟩ := hrec
      refine ⟨tree, refs, hparse, hsound, ?_, fun k hk => (mem_congr hsize).mpr
        (hon k hk), hdeps⟩
      rw [Expr.references_congr hsize hcols, hrefs]

theorem evaluateFormula_ok (hg : g.Closed Cell.dependencies)
    (heval : g.evaluateFormula i formula s = .ok (.ok e)) :
    ∃ tree refs, Expr.ofText s.registry.names s.maxLength formula =
      .ok (.ok tree) ∧ tree.Sound s.registry ∧ tree.references g = .ok refs ∧
      (∀ k ∈ refs, g.Readable i k) ∧ e.dependencies = refs.eraseDups := by
  rcases evaluateFormula_cases g i formula s with ⟨f, -, h⟩ | ⟨err, -, h⟩ |
    ⟨tree, t, hparse, ⟨f, -, h⟩ | ⟨err, -, h⟩ | ⟨x, hrun, h⟩⟩
  · cases h.symm.trans heval
  · cases h.symm.trans heval
  · cases h.symm.trans heval
  · cases h.symm.trans heval
  · cases h.symm.trans heval
    obtain ⟨hsound, refs, hrefs, hreads, hreadable⟩ := Expr.run_value hg hrun
    rw [Trace.empty, List.nil_append] at hreads
    exact ⟨tree, refs, hparse, hsound, hrefs, hreadable, by rw [hreads]⟩

/-- What a content that is accepted in a cell makes of it. -/
structure Accepted (g : Grid) (s : Settings) (i : Int) (content : String)
    (new : Cell) :
    Prop where
  index : new.index = (g.cellAt i).index
  typed : new.content = content
  dependents : new.dependents = (g.cellAt i).dependents
  records : g.Records s content new.dependencies
  nodup : new.dependencies.Nodup
  mem : ∀ k ∈ new.dependencies, k ∈ g
  noCycle : ∀ k ∈ new.dependencies, ¬ ReflTransGen g.Reads k i

theorem evaluate_ok (hg : g.Closed Cell.dependencies)
    (heval : g.evaluate i content s = .ok (.ok new)) :
    g.Accepted s i content new := by
  rcases evaluateBy_eq_ok heval with ⟨hbody, rfl⟩
    | ⟨formula, e, hbody, hformula, rfl⟩
  · refine ⟨rfl, rfl, rfl, ?_, .nil, nofun, nofun⟩
    unfold Records
    rw [hbody]
    rfl
  · obtain ⟨tree, refs, hparse, hsound, hrefs, hreadable, hdeps⟩ :=
      evaluateFormula_ok hg hformula
    have hmem : ∀ k ∈ e.dependencies, k ∈ refs := by
      intro k hk
      rwa [hdeps, List.mem_eraseDups] at hk
    refine ⟨rfl, rfl, rfl, ?_, ?_, fun k hk => (hreadable k (hmem k hk)).mem,
      fun k hk => (hreadable k (hmem k hk)).noCycle⟩
    · unfold Records
      rw [hbody]
      exact ⟨tree, refs, hparse, hsound, hrefs,
        fun k hk => (hreadable k hk).mem, hdeps⟩
    · show e.dependencies.Nodup
      rw [hdeps]
      exact nodup_eraseDups

-- ============================================================= outcomes

/-- The value that a content has in a cell at present; none when it fails. -/
def outcome (g : Grid) (s : Settings) (i : Int) (content : String) :
    Option Float :=
  match g.evaluate i content s with
  | .ok (.ok c) => c.value
  | _ => none

section

variable {dependencies : List Int} (hg : g.Closed Cell.dependencies)
  (hh : h.Closed Cell.dependencies) (hsize : h.size = g.size)
  (hcols : h.numCols = g.numCols) (hrec : g.Records s content dependencies)
  (hback : ∀ k ∈ dependencies, ¬ ReflTransGen g.Reads k i)
  (hback' : ∀ k ∈ dependencies, ¬ ReflTransGen h.Reads k i)
  (hvalue : ∀ k ∈ dependencies, (h.cellAt k).value = (g.cellAt k).value)

include hg hh hsize hcols hrec hback hback' hvalue

/-- What a formula comes to, an error included, depends on the values of what it
reads, as long as none of these leads back to the cell. -/
theorem evaluateFormula_congr (hbody : s.body? content = some formula) :
    h.evaluateFormula i formula s = g.evaluateFormula i formula s := by
  unfold Records at hrec
  rw [hbody] at hrec
  obtain ⟨tree, refs, hparse, -, hrefs, hon, hdeps⟩ := hrec
  have hmem : ∀ k ∈ refs, k ∈ dependencies := fun k hk => by
    rwa [hdeps, List.mem_eraseDups]
  have hrun : tree.run (h.source i) s.registry .empty =
      tree.run (g.source i) s.registry .empty :=
    Expr.run_congr hg hon hh hsize hcols hrefs
      (fun k hk => iff_of_false (hback' k (hmem k hk)) (hback k (hmem k hk)))
      fun k hk => hvalue k (hmem k hk)
  rw [evaluateFormula_of_tree hparse, evaluateFormula_of_tree hparse]
  unfold Expr.evaluate
  rw [hrun]

/-- So does the value of a content. -/
theorem outcome_congr (hi : i ∈ g) :
    h.outcome s i content = g.outcome s i content := by
  have hi' : i ∈ h := (mem_congr hsize).mpr hi
  unfold outcome
  cases hbody : s.body? content with
  | none =>
      rw [evaluate_constant hi hbody, evaluate_constant hi' hbody]
      rfl
  | some formula =>
      rw [evaluate_formula hi hbody, evaluate_formula hi' hbody,
        evaluateFormula_congr hg hh hsize hcols hrec hback hback' hvalue hbody]
      rcases g.evaluateFormula i formula s with f | (err | e) <;> rfl

/-- So does all that comes of a content, where the cell itself has the same
index and the same dependents. -/
theorem evaluate_congr (hi : i ∈ g)
    (hindex : (h.cellAt i).index = (g.cellAt i).index)
    (hdependents : (h.cellAt i).dependents = (g.cellAt i).dependents) :
    h.evaluate i content s = g.evaluate i content s := by
  have hi' : i ∈ h := (mem_congr hsize).mpr hi
  cases hbody : s.body? content with
  | none =>
      rw [evaluate_constant hi hbody, evaluate_constant hi' hbody]
      unfold Cell.withConstant
      rw [hindex, hdependents]
  | some formula =>
      rw [evaluate_formula hi hbody, evaluate_formula hi' hbody,
        evaluateFormula_congr hg hh hsize hcols hrec hback hback' hvalue hbody]
      unfold Cell.withFormula
      rw [hindex, hdependents]

end

/-- A content that is accepted in a cell of one grid is accepted in the same
cell of another one, with the same value and the same dependencies, if the two
have one shape and agree on these dependencies: their values are the same there,
and none of them leads back to the cell. Nothing else of the grid is seen. -/
theorem evaluate_of_agree (hg : g.Closed Cell.dependencies)
    (hh : h.Closed Cell.dependencies) (hsize : h.size = g.size)
    (hcols : h.numCols = g.numCols) (hi : i ∈ g)
    (heval : g.evaluate i content s = .ok (.ok new))
    (hvalue : ∀ k ∈ new.dependencies, (h.cellAt k).value = (g.cellAt k).value)
    (hback : ∀ k ∈ new.dependencies, ¬ ReflTransGen h.Reads k i) :
    h.evaluate i content s = .ok (.ok { h.cellAt i with
      content, value := new.value, dependencies := new.dependencies }) := by
  have hacc := evaluate_ok hg heval
  have hi' : i ∈ h := (mem_congr hsize).mpr hi
  cases hbody : s.body? content with
  | none =>
      rw [evaluate_constant hi hbody] at heval
      cases heval
      exact evaluate_constant hi' hbody
  | some formula =>
      rw [evaluate_formula hi hbody] at heval
      rw [evaluate_formula hi' hbody,
        evaluateFormula_congr hg hh hsize hcols hacc.records hacc.noCycle hback
          hvalue hbody]
      rcases hformula : g.evaluateFormula i formula s with f | (err | e)
      · rw [hformula] at heval
        cases heval
      · rw [hformula] at heval
        cases heval
      · rw [hformula] at heval
        cases heval
        rfl

/-- In the second grid the first cell has its number from a formula, and the
third one has another content and another number. -/
theorem evaluate_of_agree_three_cells :
    let g : Grid :=
      ⟨#[⟨0, "5", some 5, [], []⟩, ⟨1, "", none, [], []⟩,
        ⟨2, "", none, [], []⟩], 3⟩
    let h : Grid := ⟨#[⟨0, "=C0-2", some 5, [2], []⟩, ⟨1, "=C0", none, [2], []⟩,
      ⟨2, "7", some 7, [], [0, 1]⟩], 3⟩
    ∃ new, g.evaluate 1 "=A0*2" .standard = .ok (.ok new) ∧
    new.dependencies = [0] ∧ ¬ ReflTransGen h.Reads 0 1 ∧
      h.evaluate 1 "=A0*2" .standard =
        .ok (.ok { h.cellAt 1 with
          content := "=A0*2", value := new.value,
          dependencies := new.dependencies }) := by
  intro g h
  have hg : g.Closed Cell.dependencies := closed_of_cells (by decide)
  have hh : h.Closed Cell.dependencies := closed_of_cells (by decide)
  have hback : ¬ ReflTransGen h.Reads 0 1 := by
    obtain ⟨b, heq, hb⟩ := @leadsTo_spec h 0 1 hh (by decide)
    have hfalse : h.leadsTo 0 1 = .ok false := by decide +kernel
    cases heq.symm.trans hfalse
    exact fun hreach => Bool.false_ne_true (hb.mpr hreach)
  have hdeps : ((g.evaluate 1 "=A0*2" .standard).toOption.bind
    Except.toOption).map Cell.dependencies = some [0] := by decide +kernel
  rcases heval : g.evaluate 1 "=A0*2" .standard with f | err | new
  · rw [heval] at hdeps
    cases hdeps
  · rw [heval] at hdeps
    cases hdeps
  · rw [heval] at hdeps
    have hnew : new.dependencies = [0] := Option.some.inj hdeps
    refine ⟨new, rfl, hnew, hback, evaluate_of_agree hg hh rfl rfl (by decide)
      heval ?_ ?_⟩
    · intro k hk
      rw [hnew, List.mem_singleton] at hk
      rw [hk]
      rfl
    · intro k hk
      rw [hnew, List.mem_singleton] at hk
      rwa [hk]

-- =========================================================== faithfulness

/-- The graph is coherent and shows the references of the contents. -/
structure Faithful (s : Settings) (g : Grid) : Prop extends Coherent g where
  records : ∀ i ∈ g, g.Records s (g.cellAt i).content (g.cellAt i).dependencies

/-- The value that the content of a cell has at present. -/
def worth (g : Grid) (s : Settings) (i : Int) : Option Float :=
  g.outcome s i (g.cellAt i).content

/-- The error of a stored formula: its references are in order, so it is
the values that make it fail. -/
def FailsByValues (err : FormulaError) : Prop :=
  ∃ e, err = .eval e ∧ Expr.EvalErrorKind.OfValues e.kind

namespace Faithful

/-- A stored content can be evaluated again. It gives the dependencies that
are stored with it, or it fails because of the values it meets. -/
theorem evaluate (hg : g.Faithful s) (hi : i ∈ g) :
    g.evaluate i (g.cellAt i).content s =
        .ok (.ok { g.cellAt i with value := g.worth s i }) ∨
      (∃ err, g.evaluate i (g.cellAt i).content s = .ok (.error err) ∧
        FailsByValues err) ∧ g.worth s i = none := by
  have hrec := hg.records i hi
  unfold Records at hrec
  cases hbody : s.body? (g.cellAt i).content with
  | none =>
      rw [hbody] at hrec
      have heval := evaluate_constant (s := s) hi hbody
      refine Or.inl ?_
      unfold worth outcome
      rw [heval]
      dsimp only [Cell.withConstant]
      rw [← hrec]
  | some formula =>
      rw [hbody] at hrec
      obtain ⟨tree, refs, hparse, hsound, hrefs, hon, hdeps⟩ := hrec
      have hback : ∀ k ∈ refs, ¬ ReflTransGen g.Reads k i := fun k hk =>
        hg.noCycle hi k (by rwa [hdeps, List.mem_eraseDups])
      obtain ⟨result, t, hrun, hkind⟩ :=
        Expr.run_total (t := .empty) hg.closed_dependencies hon hsound
          hrefs hback
      have heval : g.evaluate i (g.cellAt i).content s =
          .ok ((result.map fun value => ⟨value, t.reads.eraseDups⟩).mapError
            .eval |>.map ((g.cellAt i).withFormula (g.cellAt i).content)) := by
        rw [evaluate_formula hi hbody, evaluateFormula_of_tree hparse]
        unfold Expr.evaluate
        rw [hrun]
        rfl
      unfold worth outcome
      rw [heval]
      cases result with
      | error e => exact Or.inr ⟨⟨.eval e, rfl, e, rfl, hkind e rfl⟩, rfl⟩
      | ok value =>
          obtain ⟨-, refs', hrefs', hreads, -⟩ :=
            Expr.run_value hg.closed_dependencies hrun
          rw [hrefs] at hrefs'
          cases hrefs'
          rw [Trace.empty, List.nil_append] at hreads
          refine Or.inl ?_
          dsimp only [Except.map, Except.mapError, Cell.withFormula]
          rw [hreads, ← hdeps]

/-- The worth of a cell depends on its content and on the values of what it
reads. -/
theorem worth_congr (hg : g.Faithful s) (hh : h.Faithful s)
    (hsize : h.size = g.size) (hcols : h.numCols = g.numCols) (hi : i ∈ g)
    (hcontent : (h.cellAt i).content = (g.cellAt i).content)
    (hdeps : (h.cellAt i).dependencies = (g.cellAt i).dependencies)
    (hvalue : ∀ k ∈ (g.cellAt i).dependencies,
      (h.cellAt k).value = (g.cellAt k).value) :
    h.worth s i = g.worth s i := by
  have hi' : i ∈ h := (mem_congr hsize).mpr hi
  unfold worth
  rw [hcontent]
  exact outcome_congr hg.closed_dependencies hh.closed_dependencies hsize hcols
    (hg.records i hi) (hg.noCycle hi) (hdeps ▸ hh.noCycle hi') hvalue hi

end Faithful

end Grid

end Worksheet
