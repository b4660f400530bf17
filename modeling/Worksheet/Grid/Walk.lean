/-
Walks along the edges of a grid.

A walk starts from some cells and goes on along one kind of edge until it
meets its goal or has nowhere left to go. Each cell is visited once. The
cells found on the way are visited before those that wait already, which
takes the walk deep, or after them, which takes it level by level.

A walk ends because its work is limited: what waits now, and the edges of
the cells not visited yet. Every step takes one cell off the waiting ones,
and what a visit adds to them is the edges of the cell that is visited.
-/
import Std.Data.TreeSet
import Worksheet.Grid.Basic

namespace Worksheet

/-- Which of the waiting cells a walk visits next. -/
inductive Direction where
  /-- The cell found last. -/
  | deep
  /-- The cell found first. -/
  | level
deriving DecidableEq, Repr

/-- Cells found on the way join the waiting ones, the next one in front. -/
def Direction.join : Direction → List Int → List Int → List Int
  | .deep, found, waiting => found.reverse ++ waiting
  | .level, found, waiting => waiting ++ found

theorem Direction.length_join (d : Direction) (found waiting : List Int) :
    (d.join found waiting).length = found.length + waiting.length := by
  cases d
  · rw [join, List.length_append, List.length_reverse]
  · rw [join, List.length_append, Nat.add_comm]

theorem Direction.mem_join {d : Direction} {found waiting : List Int}
    {i : Int} : i ∈ d.join found waiting ↔ i ∈ found ∨ i ∈ waiting := by
  cases d
  · rw [join, List.mem_append, List.mem_reverse]
  · rw [join, List.mem_append, or_comm]

namespace Grid

-- ============================================================== the work

/-- The edges of the cell at an index; an index without a cell has none. -/
def edgesAt (g : Grid) (edges : Cell → List Int) (i : Int) : List Int :=
  match g.cell? i with
  | some c => edges c
  | none => []

/-- The indices that denote a cell, counted from either end. -/
def indices (g : Grid) : List Int :=
  (List.range (2 * g.size)).map fun (k : Nat) => (k : Int) - g.size

/-- How many edges the cells have that a walk has not seen. -/
def edgesAhead (g : Grid) (edges : Cell → List Int) (seen : Std.TreeSet Int) :
    Nat :=
  g.indices.foldr (fun i n =>
    (if seen.contains i then 0 else (g.edgesAt edges i).length) + n) 0

theorem cell?_of_cell {g : Grid} {i : Int} {c : Cell} (h : g.cell i = .ok c) :
    g.cell? i = some c := by
  rw [cell] at h
  split at h
  · next heq => cases h; exact heq
  · cases h

/-- An index with a cell is one of the indices. -/
theorem mem_indices_of_cell {g : Grid} {i : Int} {c : Cell}
    (h : g.cell i = .ok c) : i ∈ g.indices := by
  have hplace : place? g.size i ≠ none := by
    intro hnone
    have hsome := cell?_of_cell h
    rw [cell?, hnone] at hsome
    cases hsome
  rw [ne_eq, place?_eq_none_iff] at hplace
  exact List.mem_map.mpr
    ⟨(i + g.size).toNat, List.mem_range.mpr (by omega), by omega⟩

/-- Marking a member as seen takes at least its own weight off a sum over
all that are not seen. -/
private theorem sum_insert_le (weight : Int → Nat) {seen : Std.TreeSet Int}
    {i : Int} (hi : seen.contains i = false) :
    ∀ l : List Int, i ∈ l →
      l.foldr (fun x n =>
        (if (seen.insert i).contains x then 0 else weight x) + n) 0 + weight i ≤
      l.foldr (fun x n =>
        (if seen.contains x then 0 else weight x) + n) 0 := by
  have hle : ∀ l : List Int,
      l.foldr (fun x n =>
        (if (seen.insert i).contains x then 0 else weight x) + n) 0 ≤
      l.foldr (fun x n =>
        (if seen.contains x then 0 else weight x) + n) 0 := by
    intro l
    induction l with
    | nil => exact Nat.le_refl _
    | cons x xs ih =>
      rw [List.foldr_cons, List.foldr_cons]
      refine Nat.add_le_add ?_ ih
      by_cases hx : seen.contains x = true
      · rw [if_pos (by rw [Std.TreeSet.contains_insert, hx, Bool.or_true])]
        exact Nat.zero_le _
      · rw [if_neg hx]
        split
        · exact Nat.zero_le _
        · exact Nat.le_refl _
  intro l hmem
  induction l with
  | nil => cases hmem
  | cons x xs ih =>
    rw [List.foldr_cons, List.foldr_cons]
    by_cases hx : x = i
    · subst hx
      rw [if_pos Std.TreeSet.contains_insert_self, hi,
        if_neg Bool.false_ne_true]
      have := hle xs
      omega
    · have htail := ih ((List.mem_cons.mp hmem).resolve_left (Ne.symm hx))
      have hsame : (seen.insert i).contains x = seen.contains x := by
        rw [Std.TreeSet.contains_insert]
        have hne : (compare i x == Ordering.eq) = false := by
          rw [beq_eq_false_iff_ne]
          exact fun heq => hx (Std.compare_eq_iff_eq.mp heq).symm
        rw [hne, Bool.false_or]
      rw [hsame]
      omega

/-- A visit takes the edges of the cell off those ahead. -/
theorem edgesAhead_insert_le {g : Grid} {edges : Cell → List Int}
    {seen : Std.TreeSet Int} {i : Int} {c : Cell} (hc : g.cell i = .ok c)
    (hi : seen.contains i = false) :
    g.edgesAhead edges (seen.insert i) + (edges c).length ≤
      g.edgesAhead edges seen := by
  have hedges : g.edgesAt edges i = edges c := by
    rw [edgesAt, cell?_of_cell hc]
  rw [← hedges]
  exact sum_insert_le (fun x => (g.edgesAt edges x).length) hi _
    (mem_indices_of_cell hc)

-- ============================================================== the walk

/-- Walks on from the waiting cells. The answer is `none` when the goal is
met; otherwise it lists the cells visited from here on. -/
def walk (g : Grid) (edges : Cell → List Int) (direction : Direction)
    (goal : Option Int) (seen : Std.TreeSet Int) :
    List Int → Except Fault (Option (List Int))
  | [] => .ok (some [])
  | i :: waiting =>
    if goal = some i then .ok none
    else if _ : seen.contains i then g.walk edges direction goal seen waiting
    else match _ : g.cell i with
      | .error f => .error f
      | .ok c =>
        (g.walk edges direction goal (seen.insert i)
          (direction.join (edges c) waiting)).map (Option.map (i :: ·))
termination_by waiting => waiting.length + g.edgesAhead edges seen
decreasing_by
  · rw [List.length_cons]
    omega
  · next hseen hcell =>
    have := @edgesAhead_insert_le g edges seen _ _ hcell
      (Bool.eq_false_iff.mpr hseen)
    rw [Direction.length_join, List.length_cons]
    omega

section

variable {g : Grid} {edges : Cell → List Int} {direction : Direction}
  {goal : Option Int} {seen : Std.TreeSet Int} {i : Int} {waiting : List Int}

@[simp] theorem walk_nil : g.walk edges direction goal seen [] =
    .ok (some []) := by
  rw [walk]

/-- A walk ends at its goal. -/
theorem walk_goal (h : goal = some i) :
    g.walk edges direction goal seen (i :: waiting) = .ok none := by
  rw [walk, if_pos h]

/-- A cell that was visited before is passed over. -/
theorem walk_seen (h : goal ≠ some i) (hi : seen.contains i = true) :
    g.walk edges direction goal seen (i :: waiting) =
      g.walk edges direction goal seen waiting := by
  rw [walk, if_neg h, dif_pos hi]

/-- A new cell is visited, and what it leads to joins the waiting ones. -/
theorem walk_visit {c : Cell} (h : goal ≠ some i) (hi : seen.contains i = false)
    (hc : g.cell i = .ok c) :
    g.walk edges direction goal seen (i :: waiting) =
      (g.walk edges direction goal (seen.insert i)
        (direction.join (edges c) waiting)).map (Option.map (i :: ·)) := by
  rw [walk, if_neg h, dif_neg (Bool.eq_false_iff.mp hi)]
  split
  · next heq => cases heq.symm.trans hc
  · next heq => cases heq.symm.trans hc; rfl

/-- A walk cannot visit an index without a cell. -/
theorem walk_fault {f : Fault} (h : goal ≠ some i)
    (hi : seen.contains i = false) (hc : g.cell i = .error f) :
    g.walk edges direction goal seen (i :: waiting) = .error f := by
  rw [walk, if_neg h, dif_neg (Bool.eq_false_iff.mp hi)]
  split
  · next heq => cases heq.symm.trans hc; rfl
  · next heq => cases heq.symm.trans hc

end

end Grid

end Worksheet
