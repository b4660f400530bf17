/-
Cell names: `A0` for the first column of the first row, `Z99` for the
last column of the last.

A name is one letter for the column and one or two digits for the row,
counted from zero. Letter case, a leading zero and surrounding blanks do
not matter when a name is read; the written form has a capital and no
leading zero. Cells are numbered row by row, so in a grid of a given
width each position has one index and a rectangle is a list of indices.
-/
import Worksheet.Fault
import Worksheet.Numeral
import Worksheet.Text.Blank

namespace Worksheet

/-- A row and a column, both counted from zero. -/
structure Position where
  row : Nat
  col : Nat
deriving DecidableEq, Repr

/-- The number of columns that have a letter. -/
def maxCols : Nat := 26

/-- The number of rows that two digits can name. -/
def maxRows : Nat := 100

/-- The column that a letter stands for. -/
def columnOf (c : Char) : Nat :=
  c.toUpper.toNat - 'A'.toNat

-- ============================================================== reading

/-- The position that these very characters name. -/
def Position.ofChars? : List Char → Option Position
  | [] => none
  | letter :: digits =>
    if letter.isAlpha && isDigits digits && digits.length ≤ 2 then
      some ⟨natOfDigits digits, columnOf letter⟩
    else none

/-- The position that a text names, blanks around it aside. -/
def Position.ofName (name : String) : Except Fault Position :=
  match Position.ofChars? (Text.stripChars name.toList) with
  | some p => .ok p
  | none => .error (.notACellName name)

/-- The index of a named cell in a grid of the given width. The number of
rows does not matter here: the grid knows its own length. -/
def indexOfName (name : String) (numCols : Int) : Except Fault Int := do
  let p ← Position.ofName name
  if numCols ≤ p.col then .error (.columnOutside name numCols)
  else .ok (p.row * numCols + p.col)

-- ============================================================== writing

/-- The written name of a row and a column. -/
def nameOfPosition (row col : Int) : Except Fault String :=
  if 0 ≤ col ∧ col < maxCols ∧ 0 ≤ row ∧ row < maxRows then
    .ok (String.ofList
      (Char.ofNat ('A'.toNat + col.toNat) :: Nat.toDigits 10 row.toNat))
  else .error (.positionOutOfRange row col)

/-- The written name of the cell at an index, in a grid of the given width. -/
def nameOfIndex (index numCols : Int) : Except Fault String :=
  if index < 0 then .error (.negativeIndex index)
  else if numCols = 0 then .error .noColumns
  else nameOfPosition (index.fdiv numCols) (index.fmod numCols)

-- ============================================================ rectangles

/-- The numbers from one to the other, both included, in ascending order;
either may be given first. -/
def between (a b : Nat) : List Nat :=
  List.range' (min a b) (max a b - min a b + 1)

/-- The indices of the rectangle that has these two positions as opposite
corners, row by row. -/
def rectangle (a b : Position) (numCols : Int) : List Int :=
  (between a.row b.row).flatMap fun (row : Nat) =>
    (between a.col b.col).map fun (col : Nat) => row * numCols + col

/-- The indices of the rectangle between two named corners. -/
def indicesOfRange (first last : String) (numCols : Int) :
    Except Fault (List Int) := do
  let a ← Position.ofName first
  let b ← Position.ofName last
  if numCols ≤ max a.col b.col then .error (.rangeOutside first last numCols)
  else .ok (rectangle a b numCols)

-- ================================================================== laws

theorem mem_between {a b n : Nat} :
    n ∈ between a b ↔ min a b ≤ n ∧ n ≤ max a b := by
  simp only [between, List.mem_range'_1]
  omega

theorem between_comm (a b : Nat) : between a b = between b a := by
  simp only [between, Nat.min_comm, Nat.max_comm]

end Worksheet
