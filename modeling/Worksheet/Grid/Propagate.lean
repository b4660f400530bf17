/-
Propagation: the cells that depend on a changed one are computed again.

Each affected cell is evaluated once, after everything it reads. A cell
that fails loses its value and keeps its edges, so that it is affected
again when its inputs change, and the pass goes on with the next one.
-/
import Worksheet.Grid.Edit
import Worksheet.Grid.Order

namespace Worksheet

/-- A change of the value of one cell. -/
structure Delta where
  cell : Int
  old : Option Float
  new : Option Float
deriving Repr

/-- What a propagation comes to: the new grid, the cells that were computed
again in order, the values that changed, and the cells that failed. -/
structure Propagation where
  grid : Grid
  visited : List Int
  deltas : List Delta
  errors : List EditError
deriving Repr

/-- No cell failed. -/
def Propagation.ok (p : Propagation) : Bool :=
  p.errors.isEmpty

/-- Two values count as the same when they are equal numbers or neither is
a number; two absent values are the same as well. -/
def sameValue : Option Float → Option Float → Bool
  | none, none => true
  | some x, some y => x == y || (x.isNaN && y.isNaN)
  | _, _ => false

/-- The state of a cell after it is computed again: a failure takes its
value. -/
def Cell.recomputed (old : Cell) : Except FormulaError Cell → Cell
  | .ok new => new
  | .error _ => { old with value := none }

/-- The change from one state of a cell to the next, if its value changed. -/
def Delta.between (index : Int) (old new : Cell) : List Delta :=
  if sameValue old.value new.value then [] else [⟨index, old.value, new.value⟩]

/-- The failure of the cell at an index, if it failed. -/
def EditError.ofResult (index : Int) : Except FormulaError Cell → List EditError
  | .ok _ => []
  | .error e => [⟨index, e⟩]

/-- The propagation after one more cell is computed again, formulas being
evaluated in the given way. -/
def Propagation.recomputeBy (formulas : Grid.Evaluator) (settings : Settings)
    (p : Propagation) (index : Int) : Except Fault Propagation := do
  let old ← p.grid.cell index
  let result ← p.grid.evaluateBy formulas index old.content settings
  let new := old.recomputed result
  return {
    grid := ← p.grid.commit old new
    visited := p.visited
    deltas := p.deltas ++ Delta.between index old new
    errors := p.errors ++ EditError.ofResult index result }

/-- The propagation after one more cell is computed again. -/
def Propagation.recompute (settings : Settings) (p : Propagation)
    (index : Int) : Except Fault Propagation :=
  p.recomputeBy Grid.evaluateFormula settings index

/-- Computes everything again that depends on the cell at `root`. -/
def Grid.propagateBy (formulas : Evaluator) (g : Grid) (root : Int)
    (settings : Settings) : Except Fault Propagation := do
  let order ← g.recomputationOrder root
  order.foldlM (Propagation.recomputeBy formulas settings) ⟨g, order, [], []⟩

/-- Computes everything again that depends on the cell at `root`. -/
def Grid.propagate (g : Grid) (root : Int) (settings : Settings) :
    Except Fault Propagation :=
  g.propagateBy Grid.evaluateFormula root settings

end Worksheet
