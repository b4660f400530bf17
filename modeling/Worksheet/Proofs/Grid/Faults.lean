/-
What can go wrong when a content is evaluated.

A formula is read and evaluated with the same registry. Every tree that is
read makes sense to its evaluation: it has no holes and no signs without a
meaning, and it calls functions that the registry has
(`Writable.sound`). On a grid whose dependencies stay on the grid every
request has an answer (`Grid.responds`). The evaluation of a tree therefore
ends in a value or in an error, and never in the error that a function is
unknown (`Sound.run_known`).

What is left are the faults of the settings: a length limit below zero can
reach past the start of a formula.
-/
import Worksheet.Proofs.Aggregate.Names
import Worksheet.Proofs.Expr.RoundTrip
import Worksheet.Proofs.Grid.Runs

namespace Worksheet

open Text (upper)

-- ================================================================= faults

section

variable {keywords : List String} {limit : Option Int} {text : String}
  {f : Fault}

/-- Only a limit below zero keeps a text from being looked at. -/
theorem fault_of_tokenize (h : tokenize keywords limit text = .error f) :
    ∃ n, limit = some n ∧ n < 0 ∧ f = .limitOutsideText n := by
  rcases tokenize_cases keywords limit text with
    hread | ⟨n, hlimit, -, ⟨c, hlong⟩ | ⟨hn, hfault⟩⟩
  · cases hread.symm.trans h
  · cases hlong.symm.trans h
  · cases hfault.symm.trans h
    exact ⟨n, hlimit, hn, rfl⟩

theorem Expr.fault_of_ofText (h : Expr.ofText keywords limit text = .error f) :
    ∃ n, limit = some n ∧ n < 0 ∧ f = .limitOutsideText n := by
  rcases Expr.ofText_cases keywords limit text with
    ⟨f', hcut, heq⟩ | ⟨e, -, heq⟩ | ⟨tokens, -, ⟨e, -, heq⟩ | ⟨tree, -, heq⟩⟩
  · cases heq.symm.trans h
    exact fault_of_tokenize hcut
  all_goals cases heq.symm.trans h

/-- A text that cannot be read was not evaluated. -/
theorem Expr.ofText_ne_eval {e : EvalError} :
    Expr.ofText keywords limit text ≠ .ok (.error (.eval e)) := by
  rcases Expr.ofText_cases keywords limit text with
    ⟨f, -, heq⟩ | ⟨e', -, heq⟩ | ⟨tokens, -, ⟨e', -, heq⟩ | ⟨tree, -, heq⟩⟩
  all_goals
    rw [heq]
    exact nofun

end

-- =============================================================== outcomes

/-- The outcome is a value, or an error with another cause than an unknown
function. -/
inductive CallsKnown {ε α : Type} (kind : ε → EvalErrorKind) :
    Except Fault (Except ε α) → Prop where
  | value (a : α) : CallsKnown kind (.ok (.ok a))
  | error (e : ε) : kind e ≠ .unknownFunction → CallsKnown kind (.ok (.error e))

/-- The source answers every request, and has no part in the names of
functions. -/
structure Source.Responds (source : Source) : Prop where
  cell : ∀ asked name, CallsKnown LookupError.kind (source.cell asked name)
  range : ∀ asked first last, CallsKnown LookupError.kind
      (source.range asked first last)

namespace Grid

variable {g : Grid} {current : Int} {name first last : String}

theorem lookupCell_known (hg : g.Closed Cell.dependencies) :
    CallsKnown LookupError.kind (g.lookupCell current name) := by
  classical
  cases hname : g.indexOf name with
  | error f =>
      rw [lookupCell_of_error hname]
      exact .error _ nofun
  | ok k =>
      rw [lookupCell_of_indexOf hg hname]
      split
      · exact .error _ nofun
      · cases hnum : g.numberAt k with
        | ok x => exact .value _
        | error e => exact .error e (by rw [kind_of_numberAt hnum]; exact nofun)

theorem lookupRange_known (hg : g.Closed Cell.dependencies) :
    CallsKnown LookupError.kind (g.lookupRange current first last) := by
  classical
  by_cases hon : ∃ l, indicesOfRange first last g.numCols = .ok l ∧
    ∀ i ∈ l, i ∈ g
  · obtain ⟨l, hrange, hl⟩ := hon
    rw [lookupRange_of_mem hg hrange hl]
    split
    · exact .error _ nofun
    · cases hnum : l.mapM g.numberAt with
      | ok xs => exact .value _
      | error e =>
          exact .error e (by rw [kind_of_mapM_numberAt hnum]; exact nofun)
  · rw [lookupRange_of_notMem fun l hrange hl => hon ⟨l, hrange, hl⟩]
    exact .error _ nofun

/-- A grid whose dependencies stay on it answers every request. -/
theorem responds (hg : g.Closed Cell.dependencies) :
    (g.source current).Responds :=
  ⟨fun _ _ => lookupCell_known hg, fun _ _ _ => lookupRange_known hg⟩

end Grid

namespace Expr

variable {tree : Expr} {source : Source} {functions : Registry}
  {keywords : List String} {t : Trace}

/-- The four operations have a result on all values. -/
private theorem apply_known {op : Operator} (hop : ∀ sign, op ≠ .other sign)
    (x y : Float) (right : Expr) :
    CallsKnown EvalError.kind (op.apply x y right) := by
  rcases op.apply_cases x y right with
    ⟨sign, hsign, -⟩ | ⟨-, -, happly⟩ | ⟨f, -, -, happly⟩
  · exact absurd hsign (hop sign)
  · rw [happly]
    exact .error _ nofun
  · rw [happly]
    exact .value _

/-- A tree that makes sense has an outcome with every source that answers. -/
theorem Sound.run_known (hsound : tree.Sound functions)
    (hsource : source.Responds) :
    CallsKnown EvalError.kind (tree.run source functions t).1 := by
  induction tree generalizing t with
  | number value text start => exact .value value
  | ref cell =>
      have hcell := hsource.cell t.requests cell.name
      unfold run
      dsimp only
      generalize source.cell t.requests cell.name = answer at hcell ⊢
      cases hcell with
      | value reading => exact .value _
      | error e hkind => exact .error _ hkind
  | binary op left right start ihl ihr =>
      obtain ⟨hop, hl, hr⟩ := hsound
      rw [run_binary]
      rcases op.inTurn_cases right (left.run source functions)
          (right.run source functions) t
        with ⟨-, heq⟩ | ⟨x, t₁, -, ⟨-, heq⟩ | ⟨y, t₂, -, heq⟩⟩
      all_goals rw [heq]
      · exact ihl hl
      · exact ihr hr
      · exact apply_known hop x y right
  | aggregate name first last start =>
      have hrange := hsource.range t.requests first.name last.name
      unfold run
      dsimp only
      cases hf : functions.get? name with
      | none => exact absurd hf hsound
      | some f =>
          dsimp only
          generalize source.range t.requests first.name last.name =
            answer at hrange ⊢
          cases hrange with
          | error e hkind => exact .error _ hkind
          | value reading =>
            dsimp only
            cases f reading.values with
            | ok value => exact .value value
            | error e => exact .error _ (by simp)
  | hole text => cases hsound

/-- What is read with the names of a registry makes sense to it. -/
theorem Writable.sound (h : tree.Writable functions.names)
    (hcapital : functions.Capital) :
    tree.Sound functions := by
  induction tree with
  | number value text start => trivial
  | ref cell => trivial
  | binary op left right start ihl ihr => exact ⟨h.1, ihl h.2.1, ihr h.2.2⟩
  | aggregate name first last start =>
      have hname := h.1.known
      rw [hcapital.map_upper] at hname
      exact Registry.get?_ne_none hname h.1.upper_eq
  | hole text => cases h

end Expr

-- =============================================================== contents

namespace Grid

variable {g : Grid} {i : Int} {s : Settings} {formula content : String}

/-- A formula has an outcome unless the limit faults, and the outcome is never
that a function is unknown. -/
theorem evaluateFormula_known (hcapital : s.registry.Capital)
    (hg : g.Closed Cell.dependencies) :
    (∀ f, g.evaluateFormula i formula s = .error f →
      ∃ n, s.maxLength = some n ∧ n < 0 ∧ f = .limitOutsideText n) ∧
    ∀ e, g.evaluateFormula i formula s = .ok (.error (.eval e)) →
      e.kind ≠ .unknownFunction := by
  rcases evaluateFormula_cases g i formula s with ⟨f, hread, heq⟩
    | ⟨err, hread, heq⟩ |
    ⟨tree, t, hread, hran⟩
  · rw [heq]
    refine ⟨fun f' hf => ?_, nofun⟩
    cases hf
    exact Expr.fault_of_ofText hread
  · rw [heq]
    refine ⟨nofun, fun e he => ?_⟩
    cases he
    exact absurd hread Expr.ofText_ne_eval
  · have hsound := (Expr.writable_of_ofText hread).sound hcapital
    have hresponds : (g.source i).Responds := responds hg
    have hknown := hsound.run_known (t := .empty) hresponds
    rcases hran with ⟨f, hrun, -⟩ | ⟨err, hrun, heq⟩ | ⟨x, -, heq⟩
    · rw [hrun] at hknown
      cases hknown
    · rw [hrun] at hknown
      rw [heq]
      refine ⟨nofun, fun e he => ?_⟩
      cases he
      cases hknown with
      | error _ hkind => exact hkind
    · rw [heq]
      exact ⟨nofun, nofun⟩

theorem evaluate_known (hcapital : s.registry.Capital)
    (hg : g.Closed Cell.dependencies) (hi : i ∈ g) :
    (∀ f, g.evaluate i content s = .error f →
      ∃ n, s.maxLength = some n ∧ n < 0 ∧ f = .limitOutsideText n) ∧
    ∀ e, g.evaluate i content s = .ok (.error (.eval e)) →
    e.kind ≠ .unknownFunction := by
  cases hbody : s.body? content with
  | none =>
      rw [evaluate_constant hi hbody]
      exact ⟨nofun, nofun⟩
  | some formula =>
      obtain ⟨hfault, herror⟩ := @evaluateFormula_known g i s formula
        hcapital hg
      rw [evaluate_formula hi hbody]
      rcases hresult : g.evaluateFormula i formula s with f | err | e
      · refine ⟨fun f' hf => ?_, nofun⟩
        cases hf
        exact hfault f hresult
      · refine ⟨nofun, fun e he => ?_⟩
        cases he
        exact herror e hresult
      · exact ⟨nofun, nofun⟩

end Grid

/-- A registry that was filled by registrations, in any script and with refused
ones among them, means the same functions everywhere. Some letters are the name
of a function in a formula just if the registry has it; and on a grid whose
dependencies stay on it, a content faults at most on a limit below zero, so
never on the tree of a formula, and never fails on an unknown function. -/
theorem registered_names_agree (calls : List (String × Aggregate)) :
    let r := Registry.builtin.registerAll calls
    (∀ run : List Char, run ≠ [] → (∀ c ∈ run, c.isAlpha = true) →
      (readPiece (r.names.map upper) run = .token .function ↔
        r.has (String.ofList run) = true) ∧
      (tokenize r.names none (String.ofList run) =
          .ok (.ok [⟨.function, String.ofList run, 0⟩,
            ⟨.eof, "", run.length⟩]) ↔
        r.has (String.ofList run) = true)) ∧
    ∀ (g : Grid) (i : Int) (content : String) (s : Settings),
      g.Closed Cell.dependencies → i ∈ g → s.functions = some r →
      (∀ f, g.evaluate i content s = .error f →
        ∃ n, s.maxLength = some n ∧ n < 0 ∧ f = .limitOutsideText n) ∧
      ∀ e, g.evaluate i content s = .ok (.error (.eval e)) →
        e.kind ≠ .unknownFunction := by
  intro r
  have hcapital : r.Capital := Registry.Capital.builtin.registerAll
  refine ⟨fun run hne hletters => ?_, fun g i content s hg hi hs => ?_⟩
  · exact ⟨(readPiece_eq_function_iff hne hletters).trans hcapital.has_iff.symm,
      (tokenize_eq_function_iff hne hletters).trans hcapital.has_iff.symm⟩
  · have hreg : s.registry = r := by
      rw [Settings.registry, hs, Option.getD_some]
    exact Grid.evaluate_known (hreg ▸ hcapital) hg hi

/-- One letter can have an upper case of two, and a name with a digit is
refused. -/
theorem registered_names_agree_sharp_s :
    let r := Registry.builtin.registerAll [("Maß", sumOf), ("A1", sumOf)]
    let s : Settings := ⟨"=", some 20, some r⟩
    tokenize r.names none "mass" =
      .ok (.ok [⟨.function, "mass", 0⟩, ⟨.eof, "", 4⟩]) ∧
      (∀ f, Grid.twoCells.evaluate 1 "=mass(A0:A0)" s = .error f →
        ∃ n, s.maxLength = some n ∧ n < 0 ∧ f = .limitOutsideText n) ∧
      ∀ e, Grid.twoCells.evaluate 1 "=mass(A0:A0)" s = .ok (.error (.eval e)) →
        e.kind ≠ .unknownFunction := by
  intro r s
  have hclosed : Grid.twoCells.Closed Cell.dependencies :=
    (Grid.Coherent.of_empty Grid.empty_twoCells).closed_dependencies
  obtain ⟨hnames, hcontents⟩ := registered_names_agree [("Maß", sumOf),
    ("A1", sumOf)]
  have hmass := hnames "mass".toList (by decide) (List.all_eq_true.mp rfl)
  exact ⟨hmass.2.mpr (by decide +kernel), hcontents Grid.twoCells 1 _ s hclosed
    (by decide) rfl⟩

end Worksheet
