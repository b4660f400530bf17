/-
From tokens to expressions.

The grammar, from the loosest to the tightest:

    sum     := product (('+' | '-') product)*
    product := factor (('*' | '/') factor)*
    factor  := NUMBER | CELL | FUNCTION '(' CELL ':' CELL ')' | '(' sum ')'

Both chains group to the left. Tokens are taken one at a time and never
looked at again: between two tokens all that matters is a `State`, namely
what may come next and which operations still wait for their right-hand
side. A token that cannot come next ends the reading with an error that
names the kinds which could have stood there.
-/
import Worksheet.Expr
import Worksheet.Numeral
import Worksheet.Token
import Worksheet.Text.Upper

namespace Worksheet

-- ================================================================ errors

/-- A token that does not fit: the kinds that would have fitted, the token
that is there, and its position in the sequence. -/
structure ParseError where
  expected : List TokenKind
  received : Token
  index : Nat
deriving DecidableEq, Repr

/-- The wording of the error. A token without text is shown by its kind. -/
def ParseError.message (e : ParseError) : String :=
  let wanted := " or ".intercalate (e.expected.map (·.name))
  let got :=
    if e.received.text.isEmpty then e.received.kind.name else e.received.text
  s!"Expected {wanted}, got {Text.quoted got} (token {e.index})"

namespace Expr

-- ================================================================ states

/-- The operations of one pair of parentheses that wait for their
right-hand side: of a sum, and inside it of a product. -/
structure Pending where
  sum : Option (Expr × Operator)
  product : Option (Expr × Operator)
deriving Repr

/-- Nothing waits. -/
def Pending.none : Pending := ⟨.none, .none⟩

/-- The left part, if one waits, joined with its right part. An operation
starts where its left part does. -/
def join (waiting : Option (Expr × Operator)) (right : Expr) : Expr :=
  match waiting with
  | .none => right
  | some (left, op) => .binary op left right left.start

/-- What has been read of a function form after its name. -/
inductive Form where
  | name
  | openParen
  | first (first : CellRef)
  | colon (first : CellRef)
  | last (first last : CellRef)
deriving Repr

/-- What is to come next. -/
inductive Mode where
  /-- A factor. -/
  | operand
  /-- A sign or an end, after the product so far. -/
  | sign (left : Expr)
  /-- The rest of a function form. -/
  | form (keyword : Token) (read : Form)
deriving Repr

/-- The reader between two tokens: what may come next, what waits inside
the innermost open parentheses, and what waits around them. -/
structure State where
  mode : Mode
  pending : Pending
  outer : List Pending
deriving Repr

/-- Nothing is read. -/
def State.start : State := ⟨.operand, .none, []⟩

/-- The kinds that a factor can begin with. -/
def factorKinds : List TokenKind := [.number, .cell, .function, .leftParen]

/-- The kinds to name when the next token does not fit. Signs always fit
after a factor and are not named. -/
def State.expected (s : State) : List TokenKind :=
  match s.mode with
  | .operand => factorKinds
  | .sign _ => if s.outer.isEmpty then [.eof] else [.rightParen]
  | .form _ .name => [.leftParen]
  | .form _ .openParen => [.cell]
  | .form _ (.first _) => [.colon]
  | .form _ (.colon _) => [.cell]
  | .form _ (.last ..) => [.rightParen]

/-- The tree, if the formula may end here. -/
def State.result? (s : State) : Option Expr :=
  match s.mode, s.outer with
  | .sign left, [] => some (join s.pending.sum left)
  | _, _ => none

-- ================================================================= steps

/-- The texts of an operator token that continue a product: every part of
the row `*/`, the empty part included. -/
def productSigns : List String := ["*", "/", "*/", ""]

/-- The texts of an operator token that continue a sum: every part of the
row `+-` that does not continue a product. -/
def sumSigns : List String := ["+", "-", "+-"]

/-- A factor is complete. -/
def State.take (s : State) (factor : Expr) : State :=
  { s with
    mode := .sign (join s.pending.product factor)
    pending := { s.pending with product := none } }

/-- The next state after a token, if the token fits. -/
def State.step? (s : State) (t : Token) : Option State :=
  match s.mode, t.kind with
  | .operand, .number =>
      some (s.take (.number (numeralValue t.text) t.text t.start))
  | .operand, .cell => some (s.take (.ref ⟨t.text, t.start⟩))
  | .operand, .function => some { s with mode := .form t .name }
  | .operand, .leftParen => some ⟨.operand, .none, s.pending :: s.outer⟩
  | .sign left, .operator =>
    if productSigns.contains t.text then
      some { s with
        mode := .operand
        pending := { s.pending with product := some (left, .ofSign t.text) } }
    else if sumSigns.contains t.text then
      some { s with
        mode := .operand
        pending := ⟨some (join s.pending.sum left, .ofSign t.text), none⟩ }
    else none
  | .sign left, .rightParen =>
    match s.outer with
    | [] => none
    | pending :: outer =>
        some (State.take ⟨.operand, pending, outer⟩ (join s.pending.sum left))
  | .form keyword .name, .leftParen =>
      some { s with mode := .form keyword .openParen }
  | .form keyword .openParen, .cell =>
    some { s with mode := .form keyword (.first ⟨t.text, t.start⟩) }
  | .form keyword (.first first), .colon =>
      some { s with mode := .form keyword (.colon first) }
  | .form keyword (.colon first), .cell =>
    some { s with mode := .form keyword (.last first ⟨t.text, t.start⟩) }
  | .form keyword (.last first last), .rightParen =>
    some (s.take
      (.aggregate (Text.upper keyword.text) first last keyword.start))
  | _, _ => none

/-- The end of a formula, at the token `t` in position `index`. -/
def State.finish (s : State) (t : Token) (index : Nat) :
    Except ParseError Expr :=
  match s.result? with
  | some e => .ok e
  | none => .error ⟨s.expected, t, index⟩

/-- Reads on through the tokens from position `index`. The first end token
ends the formula; `eof` stands in where there is none. -/
def State.read (s : State) (eof : Token) (index : Nat) :
    List Token → Except ParseError Expr
  | [] => s.finish eof index
  | t :: rest =>
    if t.kind = .eof then s.finish t index
    else match s.step? t with
      | some next => next.read eof (index + 1) rest
      | none => .error ⟨s.expected, t, index⟩

/-- The end token of a sequence that has none: it stands after the last
token. -/
def endToken (tokens : List Token) : Token :=
  ⟨.eof, "", (tokens.getLast?.map Token.stop).getD 0⟩

/-- The expression that a token sequence writes. -/
def ofTokens (tokens : List Token) : Except ParseError Expr :=
  State.start.read (endToken tokens) 0 tokens

end Expr

end Worksheet
