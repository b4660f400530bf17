/-
A sheet on a stack of limited size.

The calls that nest are those that read and evaluate a formula. Everything
else is as it is for a sheet whose stack has no end: an edit goes by the
formula that is put in, and computes the formulas that depend on it again,
each with the whole stack before it. What does not fit is a fault, and
leaves the sheet as it was.
-/
import Worksheet.Expr.Stack
import Worksheet.Sheet

namespace Worksheet

/-- The value of a formula and what it reads, as far as the stack has room. -/
def Grid.evaluateFormulaWithin (stack : Nat) : Grid.Evaluator :=
  fun g index formula settings => do
    let functions := settings.registry
    match ←
      Expr.ofTextWithin stack functions.names settings.maxLength formula with
    | .error e => return .error e
    | .ok tree =>
      return (← tree.evaluateWithin stack (g.source index) functions).mapError
        .eval

/-- Puts a content into a cell and brings everything that depends on it up
to date, as far as the stack has room for the formulas. -/
def Sheet.editWithin (stack : Nat) (s : Sheet) (target : Target)
    (content : String) : Except Fault (Except EditError Propagation) :=
  s.editBy (Grid.evaluateFormulaWithin stack) target content

/-- Carries out edits one after another, as far as the stack has room for
the formulas. -/
def Sheet.loadWithin (stack : Nat) (s : Sheet)
    (contents : List (String × String)) :
    Sheet × Except Fault (List EditError) :=
  s.loadBy (Grid.evaluateFormulaWithin stack) contents

end Worksheet
