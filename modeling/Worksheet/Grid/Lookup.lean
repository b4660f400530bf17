/-
A grid as a source of values.

A formula is evaluated as seen from the cell it stands in. That cell, and
every cell whose own formula leads back to it, has no value to give there:
a formula would depend on itself. Names that denote no cell of the grid
and cells without a number are refused as well.
-/
import Worksheet.Grid.Walk
import Worksheet.Source

namespace Worksheet

namespace Grid

/-- Following dependencies from `start` leads to `target`, at once or in
any number of steps. -/
def leadsTo (g : Grid) (start target : Int) : Except Fault Bool :=
  (g.walk Cell.dependencies .deep (some target) ∅ [start]).map Option.isNone

/-- The first of the cells from which dependencies lead to `target`. -/
def firstLeadingTo (g : Grid) (target : Int) :
    List Int → Except Fault (Option Int)
  | [] => .ok none
  | i :: rest => do
    if ← g.leadsTo i target then return some i
    else g.firstLeadingTo target rest

/-- The values of cells, unless one of them has none. -/
def valuesOf (g : Grid) :
    List Int → Except Fault (Except LookupError (List Float))
  | [] => .ok (.ok [])
  | i :: rest => do
    match (← g.cell i).value with
    | none => return .error ⟨.notANumber, some i⟩
    | some value => return (← g.valuesOf rest).map (value :: ·)

/-- The value of a named cell, as seen from the cell at `current`. -/
def lookupCell (g : Grid) (current : Int) (name : String) :
    Except Fault (Except LookupError CellReading) :=
  match g.indexOf name with
  | .error _ => .ok (.error ⟨.undefinedCell, none⟩)
  | .ok i => do
    if ← g.leadsTo i current then return .error ⟨.circularRef, some i⟩
    match (← g.cell i).value with
    | none => return .error ⟨.notANumber, some i⟩
    | some value => return .ok ⟨value, i⟩

/-- The values of the rectangle between two named corners, as seen from the
cell at `current`. Whether the grid has all of the rectangle is decided by
its last index. A circular cell anywhere in it is reported before a cell
without a number. -/
def lookupRange (g : Grid) (current : Int) (first last : String) :
    Except Fault (Except LookupError RangeReading) :=
  match indicesOfRange first last g.numCols with
  | .error _ => .ok (.error ⟨.undefinedCell, none⟩)
  | .ok indices =>
    if indices.getLast?.any ((g.size : Int) ≤ ·) then
      .ok (.error ⟨.undefinedCell, none⟩)
    else do
      match ← g.firstLeadingTo current indices with
      | some i => return .error ⟨.circularRef, some i⟩
      | none => return (← g.valuesOf indices).map (⟨·, indices⟩)

/-- The grid as seen from the cell at `current`. -/
def source (g : Grid) (current : Int) : Source where
  cell _ := g.lookupCell current
  range _ := g.lookupRange current

end Grid

end Worksheet
