/-
Grids: the cells of a worksheet, row by row.

A grid never changes; every operation answers a new one. What a user
typed into a cell, its content, is what counts: the value and the two
lists of edges are derived from the contents, and later modules say how.
-/
import Worksheet.CellName
import Worksheet.Place

namespace Worksheet

-- ================================================================= cells

/-- One cell. The dependencies are the cells that its formula reads, the
dependents those whose formulas read this one. -/
structure Cell where
  index : Int
  content : String
  value : Option Float
  dependencies : List Int
  dependents : List Int
deriving Repr

namespace Cell

/-- The cell at an index before anything is typed into it. -/
def blank (index : Int) : Cell := ⟨index, "", none, [], []⟩

/-- The cell with one more dependent, unless it has that one already. -/
def withDependent (c : Cell) (i : Int) : Cell :=
  if c.dependents.contains i then c
  else { c with dependents := c.dependents ++ [i] }

/-- The cell without a dependent. -/
def withoutDependent (c : Cell) (i : Int) : Cell :=
  { c with dependents := c.dependents.filter (· != i) }

end Cell

-- ================================================================= grids

/-- How a cell is pointed at: by its name, or by an index. -/
inductive Target where
  | name (name : String)
  | index (index : Int)
deriving DecidableEq, Repr

/-- The cells, row by row, and the number of columns. -/
structure Grid where
  cells : Array Cell
  numCols : Int
deriving Repr

namespace Grid

/-- The number of cells. -/
abbrev size (g : Grid) : Nat := g.cells.size

/-- A grid of blank cells. Its shape must be one that cell names can reach. -/
def empty (numCols numRows : Int) : Except Fault Grid :=
  if 0 < numCols ∧ numCols ≤ maxCols ∧ 0 < numRows ∧ numRows ≤ maxRows then
    .ok ⟨Array.ofFn fun i : Fin (numCols * numRows).toNat => Cell.blank i,
      numCols⟩
  else .error (.unsupportedShape numCols numRows)

/-- The number of full rows. -/
def numRows (g : Grid) : Except Fault Int :=
  if g.numCols = 0 then .error .noColumns else .ok (Int.fdiv g.size g.numCols)

/-- The cell at an index, if there is one. -/
def cell? (g : Grid) (i : Int) : Option Cell :=
  (place? g.size i).map fun k => g.cells[k]

/-- The cell at an index. -/
def cell (g : Grid) (i : Int) : Except Fault Cell :=
  match g.cell? i with
  | some c => .ok c
  | none => .error (.noCellAt i)

/-- The index of a named cell. -/
def indexOf (g : Grid) (name : String) : Except Fault Int :=
  match indexOfName name g.numCols with
  | .ok i => if g.size ≤ i then .error (.unknownName name) else .ok i
  | .error _ => .error (.unknownName name)

/-- The name of the cell at an index. -/
def nameOf (g : Grid) (i : Int) : Except Fault String :=
  nameOfIndex i g.numCols

/-- The cell that is pointed at. -/
def find (g : Grid) : Target → Except Fault Cell
  | .name name => do g.cell (← g.indexOf name)
  | .index i => g.cell i

/-- The grid with a cell put where its own index says. -/
def put (g : Grid) (c : Cell) : Except Fault Grid :=
  match place? g.size c.index with
  | some k => .ok { g with cells := g.cells.set k c }
  | none => .error (.noSlotAt c.index)

/-- The grid with cells put in one after another, each where its own index
says. -/
def replace (g : Grid) (updated : List Cell) : Except Fault Grid :=
  updated.foldlM put g

end Grid

end Worksheet
