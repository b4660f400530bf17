/-
Sources: where an expression gets the values of cells from.

A source answers requests for one cell or for a rectangle of cells, by
name. What it answers may depend on the requests made before, so a source
stands for anything that answers at all: a grid, a table, or something
that changes while it is being asked.
-/
import Worksheet.FormulaError

namespace Worksheet

/-- A request to a source. -/
inductive Request where
  | cell (name : String)
  | range (first last : String)
deriving DecidableEq, Repr

/-- The value of one cell, and the index of the cell. -/
structure CellReading where
  value : Float
  index : Int
deriving Repr

/-- The values of all cells of a rectangle, and their indices in the same
order. -/
structure RangeReading where
  values : List Float
  indices : List Int
deriving Repr

/-- Why a source has no value to give, and the cell that has none. -/
structure LookupError where
  kind : EvalErrorKind
  cell : Option Int
deriving DecidableEq, Repr

/-- Something that answers requests. The first argument of an answer holds
the requests made before it, the earliest first. -/
structure Source where
  cell : List Request → String → Except Fault (Except LookupError CellReading)
  range : List Request → String → String →
      Except Fault (Except LookupError RangeReading)

end Worksheet
