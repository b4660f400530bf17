/-
Blank characters: what may stand around a number or a cell name, and
between the words of a formula, without meaning anything.

The class is wider than the blanks of ASCII: it holds the four
information separators, the next-line and no-break characters and the
typographic spaces.
-/
import Worksheet.Text.Span

namespace Worksheet.Text

/-- The spans of the blank characters. -/
def blankSpans : List Span :=
  [⟨0x9, 0xd⟩, ⟨0x1c, 0x20⟩, ⟨0x85, 0x85⟩, ⟨0xa0, 0xa0⟩, ⟨0x1680, 0x1680⟩,
    ⟨0x2000, 0x200a⟩,
   ⟨0x2028, 0x2029⟩, ⟨0x202f, 0x202f⟩, ⟨0x205f, 0x205f⟩, ⟨0x3000, 0x3000⟩]

/-- The character is blank. -/
def isBlank (c : Char) : Bool :=
  inSpans blankSpans c

/-- The characters without the blank ones at either end. -/
def stripChars (cs : List Char) : List Char :=
  ((cs.dropWhile isBlank).reverse.dropWhile isBlank).reverse

/-- The text without the blank characters at either end. -/
def strip (s : String) : String :=
  String.ofList (stripChars s.toList)

/-- The text holds nothing but blank characters. -/
def allBlank (s : String) : Bool :=
  s.toList.all isBlank

end Worksheet.Text
