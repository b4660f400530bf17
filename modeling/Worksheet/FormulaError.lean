/-
Formula errors: what a user can put right.

These are values like any other. A formula can fail to be cut into
tokens, to be read as an expression, or to be evaluated; each error
points at a place in the formula text, and all of them reach the user
with the cell whose formula is at fault.
-/
import Worksheet.Expr.OfTokens

namespace Worksheet

/-- What keeps an expression from having a value. -/
inductive EvalErrorKind where
  | divideByZero
  | circularRef
  | notANumber
  | undefinedCell
  | unknownFunction
  | functionError
deriving DecidableEq, Repr

/-- The name of the cause, as messages write it. -/
def EvalErrorKind.name : EvalErrorKind → String
  | .divideByZero => "DIVIDE_BY_0"
  | .circularRef => "CIRCULAR_CELL_REF"
  | .notANumber => "CELL_NOT_A_NUMBER"
  | .undefinedCell => "CELL_UNDEFINED"
  | .unknownFunction => "UNKNOWN_FUNCTION"
  | .functionError => "FUNCTION_ERROR"

/-- The part of an expression that has no value, with the cell that is to
blame, if one is, and a detail for functions. -/
structure EvalError where
  kind : EvalErrorKind
  node : Expr
  cell : Option Int
  detail : String
deriving Repr

/-- The wording of the error. -/
def EvalError.message (e : EvalError) : String :=
  let place := match e.cell with
    | some cell => s!" (cell {cell})"
    | none => ""
  let detail := if e.detail.isEmpty then "" else ": " ++ e.detail
  e.kind.name ++ place ++ detail

/-- Any of the errors of a formula. -/
inductive FormulaError where
  | lex (e : LexError)
  | parse (e : ParseError)
  | eval (e : EvalError)
deriving Repr

/-- The offset in the formula text that the error points at. -/
def FormulaError.start : FormulaError → Int
  | .lex e => e.charIndex
  | .parse e => e.received.start
  | .eval e => e.node.start

/-- The wording of the error. -/
def FormulaError.message : FormulaError → String
  | .lex e => e.message
  | .parse e => e.message
  | .eval e => e.message

/-- A formula error and the cell it happened in. -/
structure EditError where
  cell : Int
  cause : FormulaError
deriving Repr

/-- The wording of the error. -/
def EditError.message (e : EditError) : String :=
  s!"Cell {e.cell}: {e.cause.message}"

end Worksheet
