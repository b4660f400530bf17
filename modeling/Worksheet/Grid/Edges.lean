/-
The two directions of the edges between cells.

A cell lists what it reads, its dependencies, and what reads it, its
dependents. The first list is the one that evaluation makes; when it
changes, the other direction is brought up to date from the difference
between the old list and the new one.
-/
import Std.Data.TreeSet
import Worksheet.Grid.Basic

namespace Worksheet

-- =========================================================== differences

/-- What a cell no longer reads and what it reads for the first time. -/
structure EdgeDiff where
  stale : List Int
  fresh : List Int
deriving DecidableEq, Repr

/-- The difference between two lists of dependencies, each part in the
order of the list that it comes from. -/
def EdgeDiff.between (old new : List Int) : EdgeDiff :=
  let olds := Std.TreeSet.ofList old
  let news := Std.TreeSet.ofList new
  ⟨old.filter (!news.contains ·), new.filter (!olds.contains ·)⟩

theorem EdgeDiff.mem_stale {old new : List Int} {i : Int} :
    i ∈ (between old new).stale ↔ i ∈ old ∧ i ∉ new := by
  simp [between]

theorem EdgeDiff.mem_fresh {old new : List Int} {i : Int} :
    i ∈ (between old new).fresh ↔ i ∈ new ∧ i ∉ old := by
  simp [between]

/-- The cell after the difference is applied to it: the reader is taken out
where it is stale, then put in where it is fresh. -/
def EdgeDiff.patch (d : EdgeDiff) (reader i : Int) (c : Cell) : Cell :=
  let c := if d.stale.contains i then c.withoutDependent reader else c
  if d.fresh.contains i then c.withDependent reader else c

namespace Grid

/-- Brings the dependents up to date after the dependencies of `reader` have
changed. Each cell that occurs in the difference is taken from the grid as
it is now, changed, and put back. -/
def applyDiff (g : Grid) (reader : Int) (d : EdgeDiff) : Except Fault Grid := do
  let patched ← (d.stale ++ d.fresh).eraseDups.mapM fun i => do
    return d.patch reader i (← g.cell i)
  g.replace patched

/-- Puts a new state of a cell in the place of the old one, both directions
of its edges included. -/
def commit (g : Grid) (old new : Cell) : Except Fault Grid := do
  let g ← g.applyDiff new.index (.between old.dependencies new.dependencies)
  g.replace [new]

-- =========================================================== consistency

/-- Those of the cells at the given indices that do not have `self` in one of
their lists. -/
def unaware (g : Grid) (edges : Cell → List Int) (self : Int) :
    List Int → Except Fault (List Int)
  | [] => .ok []
  | i :: rest => do
    let c ← g.cell i
    let others ← g.unaware edges self rest
    return if (edges c).contains self then others else i :: others

/-- The edges of one cell, as pairs of a dependency and its dependent, that
the other end does not know of: first those the cell reads along, then
those it is read along. -/
def brokenEdgesOf (g : Grid) (c : Cell) : Except Fault (List (Int × Int)) := do
  let reads ← g.unaware Cell.dependents c.index c.dependencies
  let readers ← g.unaware Cell.dependencies c.index c.dependents
  return reads.map (·, c.index) ++ readers.map (c.index, ·)

/-- Every edge that only one of its two cells knows of, cell by cell. -/
def brokenEdges (g : Grid) : Except Fault (List (Int × Int)) := do
  return (← g.cells.toList.mapM g.brokenEdgesOf).flatten

end Grid

end Worksheet
