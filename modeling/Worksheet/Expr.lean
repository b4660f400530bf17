/-
Expressions: the tree of a formula.

A tree keeps the text of its leaves and, at every node, the offset of the
node's first token, so that an error can point into the formula. Printing
puts parentheses around every operation; hence the printed form shows the
whole shape of the tree and needs no rule about which sign binds tighter.
-/
import Worksheet.Fault

namespace Worksheet

/-- The four operations. A tree that was not read from a formula may ask
for another one, which has no meaning. -/
inductive Operator where
  | add
  | sub
  | mul
  | div
  | other (sign : String)
deriving DecidableEq, Repr

/-- The operation that a sign stands for. -/
def Operator.ofSign (sign : String) : Operator :=
  if sign = "+" then .add
  else if sign = "-" then .sub
  else if sign = "*" then .mul
  else if sign = "/" then .div
  else .other sign

/-- The sign of an operation. -/
def Operator.sign : Operator → String
  | .add => "+"
  | .sub => "-"
  | .mul => "*"
  | .div => "/"
  | .other sign => sign

/-- A mention of a cell: its name as written, and where. -/
structure CellRef where
  name : String
  start : Int
deriving DecidableEq, Repr

/-- The tree of a formula. -/
inductive Expr where
  /-- A number, with the text it was written as. -/
  | number (value : Float) (text : String) (start : Int)
  /-- The value of a cell. -/
  | ref (cell : CellRef)
  /-- An operation on two parts. -/
  | binary (op : Operator) (left right : Expr) (start : Int)
  /-- A function of all cells in the rectangle between two corners. -/
  | aggregate (name : String) (first last : CellRef) (start : Int)
  /-- A part that was never filled in. It stands in no tree read from a
  formula, and can be neither printed nor evaluated. -/
  | hole (text : String)
deriving Repr

namespace Expr

/-- The offset of the first token of the tree. -/
def start : Expr → Int
  | number _ _ start => start
  | ref cell => cell.start
  | binary _ _ _ start => start
  | aggregate _ _ _ start => start
  | hole _ => 0

/-- The numbers and mentioned cells of a tree, from left to right. -/
def leaves : Expr → List Expr
  | number value text start => [number value text start]
  | ref cell => [ref cell]
  | binary _ left right _ => left.leaves ++ right.leaves
  | aggregate _ first last _ => [ref first, ref last]
  | hole _ => []

/-- The text of a tree, with parentheses around every operation. -/
def render : Expr → String
  | number _ text _ => text
  | ref cell => cell.name
  | binary op left right _ =>
    "(" ++ left.render ++ op.sign ++ right.render ++ ")"
  | aggregate name first last _ =>
    name ++ "(" ++ first.name ++ ":" ++ last.name ++ ")"
  | hole text => text

/-- The first hole of a tree. -/
def hole? : Expr → Option String
  | number .. | ref _ | aggregate .. => none
  | binary _ left right _ => left.hole?.or right.hole?
  | hole text => some text

/-- The text of a tree without holes. -/
def format (e : Expr) : Except Fault String :=
  match e.hole? with
  | none => .ok e.render
  | some text => .error (.holePrinted text)

end Expr

end Worksheet
