/-
The order of recomputation.

When a cell changes, the cells that read it, those that read these, and
so on, have to be computed again: the affected cells. They are computed in
an order that puts a cell after everything it reads, as far as there is
one. A cell that waits for itself, directly or through others, is put at
the end together with all that wait for it.
-/
import Std.Data.TreeMap
import Worksheet.Grid.Walk

namespace Worksheet

namespace Grid

/-- The cells that read the cell at an index. -/
def dependentsOf (g : Grid) (i : Int) : List Int :=
  g.edgesAt Cell.dependents i

/-- The cells that read the cell at `root`, directly or through others,
level by level. The root is not among them, even if it reads itself. -/
def affected (g : Grid) (root : Int) : Except Fault (List Int) := do
  match ← g.walk Cell.dependents .level none ∅ [root] with
  | some visited => return visited.tail
  | none => return []

end Grid

/-- A schedule under way: how many edges from cells not yet placed still
lead into each affected cell, the cells into which none leads, and the cells
placed so far. -/
structure Schedule where
  incoming : Std.TreeMap Int Nat
  ready : List Int
  placed : List Int

namespace Schedule

/-- Counts one more edge into a cell, if it is an affected one. -/
def countEdge (incoming : Std.TreeMap Int Nat) (i : Int) :
    Std.TreeMap Int Nat :=
  match incoming[i]? with
  | some n => incoming.insert i (n + 1)
  | none => incoming

/-- All edges between affected cells are counted, and nothing is placed. -/
def start (g : Grid) (affected : List Int) : Schedule :=
  let zero := affected.foldl (fun m i => m.insert i 0) (∅ : Std.TreeMap Int Nat)
  let incoming := (affected.flatMap g.dependentsOf).foldl countEdge zero
  ⟨incoming, affected.filter (incoming[·]? == some 0), []⟩

/-- One edge from a placed cell is taken away. The cell it leads into is
ready when that was the last one. -/
def dropEdge (s : Schedule) (i : Int) : Schedule :=
  match s.incoming[i]? with
  | some 1 =>
      { s with incoming := s.incoming.insert i 0, ready := s.ready ++ [i] }
  | some n => { s with incoming := s.incoming.insert i (n - 1) }
  | none => s

/-- Places the cell that has been ready longest and takes its edges away. -/
def place (g : Grid) (s : Schedule) : Schedule :=
  match s.ready with
  | [] => s
  | i :: rest =>
    (g.dependentsOf i).foldl dropEdge ⟨s.incoming, rest, s.placed ++ [i]⟩

end Schedule

namespace Grid

/-- The affected cells in the order of recomputation. There are as many
rounds as cells, and each places one cell while there is one to place. -/
def sortAffected (g : Grid) (affected : List Int) : List Int :=
  let placed :=
    (affected.foldl (fun s _ => s.place g) (Schedule.start g affected)).placed
  placed ++ affected.filter (!placed.contains ·)

/-- The cells to recompute when the cell at `root` has changed. -/
def recomputationOrder (g : Grid) (root : Int) : Except Fault (List Int) :=
  (g.affected root).map g.sortAffected

end Grid

end Worksheet
