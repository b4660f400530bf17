/-
Sheets: a grid in use.

A sheet holds the present grid and the settings it is used with. Every
edit brings all cells that depend on it up to date before the next one,
and cells are named or numbered as the user likes.
-/
import Worksheet.Grid.Propagate

namespace Worksheet

/-- The present grid and its settings. -/
structure Sheet where
  grid : Grid
  settings : Settings

namespace Sheet

/-- The index of the cell that is pointed at. An index from the end is not
accepted here. -/
def resolve (s : Sheet) : Target → Except Fault Int
  | .name name => s.grid.indexOf name
  | .index i =>
    if 0 ≤ i ∧ i < s.grid.size then .ok i
      else .error (.outsideSheet i s.grid.size)

/-- Puts a content into a cell and brings everything that depends on it up
to date, formulas being evaluated in the given way. The propagation that is
answered holds the grid of the new sheet; after an error the sheet stays as
it is. -/
def editBy (formulas : Grid.Evaluator) (s : Sheet) (target : Target)
    (content : String) : Except Fault (Except EditError Propagation) := do
  let i ← s.resolve target
  match ← s.grid.editBy formulas i content s.settings with
  | .error e => return .error e
  | .ok edited => return .ok (← edited.propagateBy formulas i s.settings)

/-- Puts a content into a cell and brings everything that depends on it up
to date. -/
def edit (s : Sheet) (target : Target) (content : String) :
    Except Fault (Except EditError Propagation) :=
  s.editBy Grid.evaluateFormula target content

/-- The sheet after an edit that was answered with `result`. -/
def after (s : Sheet) (result : Except EditError Propagation) : Sheet :=
  match result with
  | .ok p => { s with grid := p.grid }
  | .error _ => s

/-- The errors in the answer to an edit. -/
def errorsOf : Except EditError Propagation → List EditError
  | .ok p => p.errors
  | .error e => [e]

/-- Carries out edits one after another and collects their errors. An edit
that cannot be carried out at all ends the run; the sheet then holds what
the edits before it have done. -/
def loadBy (formulas : Grid.Evaluator) (s : Sheet) :
    List (String × String) → Sheet × Except Fault (List EditError)
  | [] => (s, .ok [])
  | (name, content) :: rest =>
    match s.editBy formulas (.name name) content with
    | .error f => (s, .error f)
    | .ok result =>
      let (last, errors) := (s.after result).loadBy formulas rest
      (last, errors.map (errorsOf result ++ ·))

/-- Carries out edits one after another and collects their errors. -/
def load (s : Sheet) (contents : List (String × String)) :
    Sheet × Except Fault (List EditError) :=
  s.loadBy Grid.evaluateFormula contents

/-- The cell that is pointed at. -/
def cell (s : Sheet) (target : Target) : Except Fault Cell := do
  s.grid.cell (← s.resolve target)

/-- The value of the cell that is pointed at. -/
def value (s : Sheet) (target : Target) : Except Fault (Option Float) :=
  (s.cell target).map (·.value)

end Sheet

end Worksheet
