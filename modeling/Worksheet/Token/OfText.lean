/-
From text to tokens.

The text is cut into pieces first: every maximal run of letters, digits
and decimal marks is one piece, every other character a piece of its own.
Then each piece is classified by itself. The first piece that is neither
blank nor a token decides the error; nothing after it matters.
-/
import Worksheet.CellName
import Worksheet.Place
import Worksheet.Token
import Worksheet.Text.Upper

namespace Worksheet

open Text (upper isBlank)

-- =============================================================== pieces

/-- The characters that cling together: letters, digits and decimal marks. -/
def isRunChar (c : Char) : Bool :=
  c.isAlphanum || isDecimalMark c

/-- The text cut between every two characters that do not cling together. -/
def pieces (cs : List Char) : List (List Char) :=
  cs.splitBy fun a b => isRunChar a && isRunChar b

/-- What a piece of text turns out to be. -/
inductive Piece where
  | blank
  | token (kind : TokenKind)
  | bad (kind : LexErrorKind)
deriving DecidableEq, Repr

/-- The signs that are tokens by themselves. -/
def signKind? : Char → Option TokenKind
  | '+' | '-' | '*' | '/' => some .operator
  | '(' => some .leftParen
  | ')' => some .rightParen
  | ':' => some .colon
  | _ => none

/-- The fault of a run that is no token, seen from its first two characters:
a digit or decimal mark begins a number, one letter a cell name, two
letters a function name. -/
def badRun : List Char → LexErrorKind
  | first :: second :: _ =>
    if first.isDigit || isDecimalMark first then .invalidNumber
    else if second.isAlpha then .unknownFunction
    else .invalidCell
  | [single] =>
    if single.isDigit || isDecimalMark single then .invalidNumber
      else .invalidCell
  | [] => .invalidCell

/-- A run is a number, a cell name or one of the known function names, which
are given in upper case. -/
def readRun (known : List String) (run : List Char) : Piece :=
  if isNumeral run then .token .number
  else if (Position.ofChars? run).isSome then .token .cell
  else if run.all Char.isAlpha && known.contains (upper (String.ofList run))
    then .token .function
  else .bad (badRun run)

/-- What a piece is: a run, a blank, a sign, or nothing that belongs in a
formula. -/
def readPiece (known : List String) : List Char → Piece
  | [] => .blank
  | c :: cs =>
    if isRunChar c then readRun known (c :: cs)
    else if isBlank c then .blank
    else match signKind? c with
      | some kind => .token kind
      | none => .bad .invalidCharacter

-- =============================================================== tokens

/-- The tokens of the pieces, the first of which starts at `offset`, and an
end token after the last. -/
def tokensOfPieces (known : List String) (offset : Nat) :
    List (List Char) → Except LexError (List Token)
  | [] => .ok [⟨.eof, "", offset⟩]
  | piece :: rest =>
    match readPiece known piece with
    | .blank => tokensOfPieces known (offset + piece.length) rest
    | .token kind =>
      (tokensOfPieces known (offset + piece.length) rest).map
        (⟨kind, String.ofList piece, offset⟩ :: ·)
    | .bad kind => .error ⟨kind, piece.headD ' ', offset, String.ofList piece⟩

/-- The tokens of a text, ended by an end token. Function names are
recognized in any letter case. -/
def tokensOfText (keywords : List String) (text : String) :
    Except LexError (List Token) :=
  tokensOfPieces (keywords.map upper) 0 (pieces text.toList)

/-- The function names that are known when none are given. -/
def defaultKeywords : List String := ["SUM"]

/-- The tokens of a text that may have a greatest length. The limit counts
characters and is checked before anything else; a negative one blames the
character it denotes when counted from the end. -/
def tokenize (keywords : List String) (limit : Option Int) (text : String) :
    Except Fault (Except LexError (List Token)) :=
  match limit with
  | none => .ok (tokensOfText keywords text)
  | some limit =>
    if text.length ≤ limit then .ok (tokensOfText keywords text)
    else match place? text.toList.length limit with
      | some i => .ok (.error ⟨.tooLong, text.toList.get i, limit, ""⟩)
      | none => .error (.limitOutsideText limit)

end Worksheet
