/-
Faults: requests that cannot be carried out at all.

What a user can put right in a formula is answered with a `FormulaError`,
an ordinary value. A fault is the other thing: a name or a number that
denotes no place, a setting outside its range, a tree that no formula text
produces, or a formula that is nested too deeply. Functions that can meet
one have results in `Except Fault`, with the formula errors inside the
successful part.
-/
import Worksheet.Place
import Worksheet.Text.Quoted

namespace Worksheet

/-- Why a request cannot be carried out. -/
inductive Fault where
  /-- The text is no cell name. -/
  | notACellName (name : String)
  /-- No cell name denotes this row and column. -/
  | positionOutOfRange (row col : Int)
  /-- The column of a cell name is beyond the width of the grid. -/
  | columnOutside (name : String) (numCols : Int)
  /-- A corner of a range is beyond the width of the grid. -/
  | rangeOutside (first last : String) (numCols : Int)
  /-- A cell index below zero has no name. -/
  | negativeIndex (index : Int)
  /-- A grid without columns has no rows to count. -/
  | noColumns
  /-- A grid has 1 to 26 columns and 1 to 100 rows. -/
  | unsupportedShape (numCols numRows : Int)
  /-- The name denotes no cell of the grid. -/
  | unknownName (name : String)
  /-- No cell stands at the index that is read. -/
  | noCellAt (index : Int)
  /-- No cell stands at the index that is written. -/
  | noSlotAt (index : Int)
  /-- The index is none of the sheet's. -/
  | outsideSheet (index : Int) (size : Nat)
  /-- A length limit below zero reaches past the start of the text. -/
  | limitOutsideText (limit : Int)
  /-- A function is given a name that is no word. -/
  | notAWord (name : String)
  /-- A tree asks for an operator that is none of the four. -/
  | unknownOperator (op : String)
  /-- A tree with a hole is evaluated. -/
  | holeEvaluated (text : String)
  /-- A tree with a hole is printed. -/
  | holePrinted (text : String)
  /-- The calls inside each other are more than the stack has room for. -/
  | tooDeep
deriving DecidableEq, Repr

open Text (quoted)

/-- The wording for an index that denotes no place in a row of things. One
that does not even fit into a machine word is reported as such, whatever
the row holds. -/
def outOfRange (row : String) (index : Int) : String :=
  if fitsWord index then s!"{row} index out of range"
  else "cannot fit 'int' into an index-sized integer"

/-- The wording of a fault. -/
def Fault.message : Fault → String
  | .notACellName name => s!"Invalid cell name: {quoted name}"
  | .positionOutOfRange row col =>
      s!"Cell position out of range: ({row}, {col})"
  | .columnOutside name numCols =>
      s!"Column of {quoted name} outside a {numCols}-column grid"
  | .rangeOutside first last numCols =>
      s!"Range {first}:{last} outside a {numCols}-column grid"
  | .negativeIndex index => s!"Negative cell index: {index}"
  | .noColumns => "The grid has no columns"
  | .unsupportedShape numCols numRows =>
      s!"Unsupported grid shape: {numCols} x {numRows}"
  | .unknownName name => quoted name
  | .noCellAt index => outOfRange "tuple" index
  | .noSlotAt index => outOfRange "list assignment" index
  | .outsideSheet index size => s!"Cell index {index} outside grid of {size}"
  | .limitOutsideText limit => outOfRange "string" limit
  | .notAWord name => s!"Function name must be alphabetic: {quoted name}"
  | .unknownOperator op => s!"Unknown operator {quoted op}"
  | .holeEvaluated text => s!"Nothing to evaluate in {quoted text}"
  | .holePrinted text => s!"Nothing to print for {quoted text}"
  | .tooDeep => "maximum recursion depth exceeded"

end Worksheet
