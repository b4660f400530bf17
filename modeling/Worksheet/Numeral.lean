/-
Numerals: digits, and after a separator perhaps more digits.

The separator may be a point or a comma. There is no sign, no exponent
and no grouping. The value is the binary floating-point number nearest
to the decimal that is written, infinity when the decimal is too large.
-/

namespace Worksheet

/-- The character separates the whole part of a numeral from the fraction. -/
def isDecimalMark (c : Char) : Bool :=
  c == '.' || c == ','

/-- Some digits, and nothing else. -/
def isDigits (cs : List Char) : Bool :=
  !cs.isEmpty && cs.all Char.isDigit

/-- Digits, or digits, a separator and digits. -/
def isNumeral (cs : List Char) : Bool :=
  isDigits (cs.takeWhile Char.isDigit) &&
    match cs.dropWhile Char.isDigit with
    | [] => true
    | mark :: digits => isDecimalMark mark && isDigits digits

/-- The text is a numeral; one line end after it is allowed. -/
def isNumeralLine (s : String) : Bool :=
  isNumeral s.toList ||
    (s.toList.getLast? == some '\n' && isNumeral s.toList.dropLast)

/-- The value of a decimal digit. -/
def digitValue (c : Char) : Nat :=
  c.toNat - '0'.toNat

/-- The natural number that decimal digits write. -/
def natOfDigits (cs : List Char) : Nat :=
  cs.foldl (fun n c => 10 * n + digitValue c) 0

/-- The number that a numeral writes: all its digits, read as one natural
number and divided by ten for each digit of the fraction, rounded once. -/
def numeralValue (s : String) : Float :=
  let whole := s.toList.takeWhile Char.isDigit
  let fraction :=
    ((s.toList.dropWhile Char.isDigit).drop 1).takeWhile Char.isDigit
  Float.ofScientific (natOfDigits (whole ++ fraction)) true fraction.length

end Worksheet
