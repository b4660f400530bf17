/-
Edits: from what is typed into a cell to its new state.

A content is a formula, a number or plain text. Only a formula reads other
cells, and only a formula can be refused. An edit that is refused leaves
the grid as it was; one that is accepted changes the cell and the edges
that lead to and from it, but no other value.

How a formula is evaluated is left open at first, since the stack may have
room for only so much (`Worksheet.Stack`). What is done without regard to
that, `evaluate` and `edit` here, goes by `evaluateFormula`.
-/
import Worksheet.Expr.Eval
import Worksheet.Expr.OfText
import Worksheet.Grid.Edges
import Worksheet.Grid.Lookup
import Worksheet.Settings
import Worksheet.Text.Blank

namespace Worksheet

/-- The cell with a content of its own that reads nothing. -/
def Cell.withConstant (c : Cell) (content : String) (value : Option Float) :
    Cell :=
  { c with content := content, value := value, dependencies := [] }

/-- The cell with a formula and the outcome of its evaluation. -/
def Cell.withFormula (c : Cell) (content : String) (e : Evaluation) : Cell :=
  { c with
    content := content, value := some e.value, dependencies := e.dependencies }

/-- The number that a content is when it is no formula: a numeral, blanks
around it aside. -/
def numberOfContent? (content : String) : Option Float :=
  let stripped := Text.strip content
  if isNumeralLine stripped then some (numeralValue stripped) else none

namespace Grid

/-- A way to find the value of a formula and what it reads, as seen from the
cell at an index. -/
abbrev Evaluator :=
  Grid → Int → String → Settings →
    Except Fault (Except FormulaError Evaluation)

/-- The value of a formula and what it reads, as seen from the cell at
`index`. -/
def evaluateFormula (g : Grid) (index : Int) (formula : String)
    (settings : Settings) : Except Fault (Except FormulaError Evaluation) := do
  let functions := settings.registry
  match ← Expr.ofText functions.names settings.maxLength formula with
  | .error e => return .error e
  | .ok tree =>
    return (← (tree.evaluate (g.source index) functions).1).mapError .eval

/-- The state that the cell at `index` takes on with a content, formulas being
evaluated in the given way. Its dependents stay as they are. A marker with
nothing behind it is not evaluated: it is a formula still to be written. -/
def evaluateBy (formulas : Evaluator) (g : Grid) (index : Int)
    (content : String) (settings : Settings) :
    Except Fault (Except FormulaError Cell) := do
  let cell ← g.cell index
  match settings.formula? content with
  | none => return .ok (cell.withConstant content (numberOfContent? content))
  | some formula =>
    if Text.allBlank formula then return .ok (cell.withConstant content none)
    else
      return (← formulas g index formula settings).map
        (cell.withFormula content)

/-- The state that the cell at `index` takes on with a content. -/
def evaluate (g : Grid) (index : Int) (content : String) (settings : Settings) :
    Except Fault (Except FormulaError Cell) :=
  g.evaluateBy evaluateFormula index content settings

/-- The grid after a content is put into the cell at `index`, or why the
content is refused. Cells that read the changed one keep their values:
see `propagateBy`. -/
def editBy (formulas : Evaluator) (g : Grid) (index : Int) (content : String)
    (settings : Settings) : Except Fault (Except EditError Grid) := do
  match ← g.evaluateBy formulas index content settings with
  | .error e => return .error ⟨index, e⟩
  | .ok new => return .ok (← g.commit (← g.cell index) new)

/-- The grid after an edit. -/
def edit (g : Grid) (index : Int) (content : String) (settings : Settings) :
    Except Fault (Except EditError Grid) :=
  g.editBy evaluateFormula index content settings

end Grid

end Worksheet
