/-
Tokens: the words and signs of a formula.

A token is a piece of the formula text together with the place where it
starts, counted in characters. What can be wrong with a piece is here as
well, with the wording that the user gets to see.
-/
import Worksheet.Text.Quoted

namespace Worksheet

/-- The kinds of tokens. `eof` stands for the end of the formula. -/
inductive TokenKind where
  | number
  | cell
  | operator
  | function
  | leftParen
  | rightParen
  | colon
  | eof
deriving DecidableEq, Repr

/-- The name of a kind, as messages write it. -/
def TokenKind.name : TokenKind → String
  | .number => "NUMBER"
  | .cell => "CELL_REF"
  | .operator => "OPERATOR"
  | .function => "FUNCTION"
  | .leftParen => "LPAREN"
  | .rightParen => "RPAREN"
  | .colon => "RANGE_SEP"
  | .eof => "EOF"

/-- A piece of a formula: its kind, its text and the offset of its first
character. -/
structure Token where
  kind : TokenKind
  text : String
  start : Int
deriving DecidableEq, Repr

/-- The offset just after the token. -/
def Token.stop (t : Token) : Int :=
  t.start + t.text.length

/-- What keeps a text from being cut into tokens. -/
inductive LexErrorKind where
  | invalidCharacter
  | invalidNumber
  | invalidCell
  | unknownFunction
  | tooLong
deriving DecidableEq, Repr

/-- The name of the cause, as messages write it. -/
def LexErrorKind.name : LexErrorKind → String
  | .invalidCharacter => "INVALID_CHAR"
  | .invalidNumber => "INVALID_NUMBER"
  | .invalidCell => "INVALID_CELL"
  | .unknownFunction => "UNKNOWN_FUNCTION"
  | .tooLong => "FORMULA_TOO_LONG"

/-- The first piece of a text that is no token: its first character, the
offset of that character, and the whole piece. A text that is too long is
blamed at the first character beyond the limit, with no piece. -/
structure LexError where
  kind : LexErrorKind
  char : Char
  charIndex : Int
  text : String
deriving DecidableEq, Repr

/-- The wording of the error. -/
def LexError.message (e : LexError) : String :=
  if e.kind = .tooLong then s!"Formula longer than {e.charIndex} characters"
  else
    let shown := if e.text.isEmpty then e.char.toString else e.text
    s!"{e.kind.name}: {Text.quoted shown} at position {e.charIndex}"

end Worksheet
