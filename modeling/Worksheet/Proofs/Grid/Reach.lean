/-
Walks are exact.

On a grid whose edges all lead to cells of it, a walk never faults. It is
stopped by its goal only if the goal can be reached, and a walk that is
not stopped visits every cell that can be reached, each once. Both halves
come from one statement about a walk under way (`walk_spec`): what it
visits from here on is reached from a waiting cell, and together with the
cells seen before it is closed under the edges.

Two uses of walks are settled with it: following dependencies tells
whether one cell leads to another, and following dependents level by level
collects the affected cells.
-/
import Mathlib.Logic.Relation
import Worksheet.Grid.Lookup
import Worksheet.Grid.Order
import Worksheet.Proofs.Grid.Cells

namespace Worksheet

namespace Grid

open Relation (ReflTransGen TransGen)

variable {g : Grid} {edges : Cell → List Int} {direction : Direction}
  {goal : Option Int} {i j root start target : Int}

-- ============================================================= the edges

/-- One edge of the given kind goes from a cell of the grid to an index. -/
def Leads (g : Grid) (edges : Cell → List Int) (i j : Int) : Prop :=
  i ∈ g ∧ j ∈ g.edgesAt edges i

/-- The formula of the first cell reads the second. -/
abbrev Reads (g : Grid) : Int → Int → Prop := g.Leads Cell.dependencies

/-- The first cell knows the second as one that reads it. -/
abbrev Feeds (g : Grid) : Int → Int → Prop := g.Leads Cell.dependents

/-- Edges of this kind lead from cells of the grid to cells of the grid. -/
def Closed (g : Grid) (edges : Cell → List Int) : Prop :=
  ∀ i j, g.Leads edges i j → j ∈ g

theorem reads_iff : g.Reads i j ↔ i ∈ g ∧ j ∈ (g.cellAt i).dependencies := by
  rw [← edgesAt_dependencies]
  rfl

theorem feeds_iff : g.Feeds i j ↔ i ∈ g ∧ j ∈ (g.cellAt i).dependents := by
  rw [← edgesAt_dependents]
  rfl

private theorem edgesAt_of_mem (hi : i ∈ g) :
    g.edgesAt edges i = edges (g.cellAt i) := by
  rw [edgesAt, cell?_of_mem hi]

/-- Where the two kinds of edges are the two directions of one graph, so are
their paths. -/
theorem reach_feeds_iff_of_agree (h : ∀ a b, g.Feeds a b ↔ g.Reads b a) :
    ReflTransGen g.Feeds i j ↔ ReflTransGen g.Reads j i := by
  have hswap : g.Feeds = Function.swap g.Reads := by
    funext a b
    exact propext (h a b)
  rw [hswap]
  exact Relation.reflTransGen_swap

/-- It is enough to look at the cells as they stand in the grid. -/
theorem closed_of_cells (h : ∀ c ∈ g.cells, ∀ j ∈ edges c, j ∈ g) :
    g.Closed edges := by
  rintro i j ⟨hi, hj⟩
  rw [edgesAt_of_mem hi] at hj
  exact h _ (Array.mem_of_getElem? (getElem?_of_mem hi)) j hj

/-- A path begins on the grid. -/
theorem mem_of_path (hpath : TransGen (g.Leads edges) i j) : i ∈ g := by
  obtain ⟨k, hstep, -⟩ := TransGen.head'_iff.mp hpath
  exact hstep.1

/-- What can be reached from the grid lies on it. -/
theorem Closed.mem_of_reach (hg : g.Closed edges) (hi : i ∈ g)
    (hreach : ReflTransGen (g.Leads edges) i j) : j ∈ g := by
  induction hreach with
  | refl => exact hi
  | tail _ hstep _ => exact hg _ _ hstep

-- ============================================================== the walk

/-- What a walk visits when it goes on from the waiting cells and meets no
goal: new cells only, each once and reached from a waiting one, and so many
that nothing which waits, or to which an edge from them leads, is missed. -/
structure Visits (g : Grid) (edges : Cell → List Int) (goal : Option Int)
    (seen : Std.TreeSet Int) (waiting visited : List Int) : Prop where
  nodup : visited.Nodup
  fresh : ∀ x ∈ visited, x ∉ seen
  missed : ∀ x ∈ visited, goal ≠ some x
  reached : ∀ x ∈ visited, ∃ w ∈ waiting, ReflTransGen (g.Leads edges) w x
  waited : ∀ w ∈ waiting, w ∈ seen ∨ w ∈ visited
  closed : ∀ x ∈ visited, ∀ y, g.Leads edges x y → y ∈ seen ∨ y ∈ visited

namespace Visits

variable {seen : Std.TreeSet Int} {waiting visited : List Int}

theorem nil : Visits g edges goal seen [] [] := by
  refine ⟨List.nodup_nil, ?_, ?_, ?_, ?_, ?_⟩ <;> intro x hx <;> cases hx

/-- Passing over a cell that was seen before changes nothing. -/
private theorem pass (hi : i ∈ seen)
    (h : Visits g edges goal seen waiting visited) :
    Visits g edges goal seen (i :: waiting) visited where
  nodup := h.nodup
  fresh := h.fresh
  missed := h.missed
  reached := fun x hx => by
    obtain ⟨w, hw, hreach⟩ := h.reached x hx
    exact ⟨w, List.mem_cons_of_mem _ hw, hreach⟩
  waited := fun w hw => by
    rcases List.mem_cons.mp hw with rfl | hw
    · exact Or.inl hi
    · exact h.waited w hw
  closed := h.closed

/-- Visiting a new cell puts it in front of what is visited afterwards. -/
private theorem visit (hgoal : goal ≠ some i) (hi : i ∉ seen) (hon : i ∈ g)
    (h : Visits g edges goal (seen.insert i)
      (direction.join (g.edgesAt edges i) waiting) visited) :
    Visits g edges goal seen (i :: waiting) (i :: visited) := by
  have hsplit : ∀ x, x ∈ seen.insert i ∨ x ∈ visited → x ∈ seen ∨
      x ∈ i :: visited := by
    intro x hx
    rw [Std.TreeSet.mem_insert, Std.compare_eq_iff_eq] at hx
    rcases hx with (rfl | hx) | hx
    · exact Or.inr List.mem_cons_self
    · exact Or.inl hx
    · exact Or.inr (List.mem_cons_of_mem _ hx)
  have hself : i ∉ visited := fun hmem =>
    h.fresh i hmem Std.TreeSet.mem_insert_self
  refine ⟨List.nodup_cons.mpr ⟨hself, h.nodup⟩, ?_, ?_, ?_, ?_, ?_⟩
  · intro x hx hseen
    rcases List.mem_cons.mp hx with rfl | hx
    · exact hi hseen
    · exact h.fresh x hx (Std.TreeSet.mem_insert.mpr (Or.inr hseen))
  · intro x hx
    rcases List.mem_cons.mp hx with rfl | hx
    · exact hgoal
    · exact h.missed x hx
  · intro x hx
    rcases List.mem_cons.mp hx with rfl | hx
    · exact ⟨x, List.mem_cons_self, .refl⟩
    · -- what is reached over an edge of the new cell is reached from that cell
      obtain ⟨w, hw, hreach⟩ := h.reached x hx
      rcases Direction.mem_join.mp hw with hedge | hwait
      · exact ⟨i, List.mem_cons_self, .head ⟨hon, hedge⟩ hreach⟩
      · exact ⟨w, List.mem_cons_of_mem _ hwait, hreach⟩
  · intro w hw
    rcases List.mem_cons.mp hw with rfl | hw
    · exact Or.inr List.mem_cons_self
    · exact hsplit w (h.waited w (Direction.mem_join.mpr (Or.inr hw)))
  · intro x hx y hstep
    rcases List.mem_cons.mp hx with rfl | hx
    · exact hsplit y (h.waited y (Direction.mem_join.mpr (Or.inl hstep.2)))
    · exact hsplit y (h.closed x hx y hstep)

/-- A walk that started with nothing seen has visited all that can be
reached. -/
private theorem mem_of_reach (h : Visits g edges goal ∅ waiting visited)
    {w x : Int} (hw : w ∈ waiting)
    (hreach : ReflTransGen (g.Leads edges) w x) : x ∈ visited := by
  have hempty : ∀ y, y ∈ (∅ : Std.TreeSet Int) ∨ y ∈ visited → y ∈ visited :=
    fun y hy =>
    hy.resolve_left Std.TreeSet.not_mem_emptyc
  induction hreach with
  | refl => exact hempty _ (h.waited w hw)
  | tail _ hstep ih => exact hempty _ (h.closed _ ih _ hstep)

end Visits

/-- A walk ends at a goal that can be reached, or misses it and visits what
there is. -/
theorem walk_spec (hg : g.Closed edges) (seen : Std.TreeSet Int)
    (waiting : List Int) :
    (∀ w ∈ waiting, w ∈ g) →
      (g.walk edges direction goal seen waiting = .ok none ∧
        ∃ t, goal = some t ∧ ∃ w ∈ waiting, ReflTransGen (g.Leads edges) w t) ∨
      ∃ visited, g.walk edges direction goal seen waiting = .ok (some visited) ∧
        Visits g edges goal seen waiting visited := by
  -- the induction is the recursion of the walk; a fault needs an index off the
  -- grid
  induction seen, waiting using walk.induct g edges direction goal with
  | case1 seen => exact fun _ => Or.inr ⟨[], walk_nil, .nil⟩
  | case2 seen i waiting hgoal =>
      exact fun _ => Or.inl ⟨walk_goal hgoal, i, hgoal, i, List.mem_cons_self,
        .refl⟩
  | case3 seen i waiting hgoal hseen ih =>
      intro hwait
      rw [walk_seen hgoal hseen]
      rcases ih fun w hw => hwait w (List.mem_cons_of_mem _ hw) with
        ⟨heq, t, ht, w, hw, hreach⟩ | ⟨visited, heq, hvisits⟩
      · exact Or.inl ⟨heq, t, ht, w, List.mem_cons_of_mem _ hw, hreach⟩
      · exact Or.inr ⟨visited, heq, hvisits.pass
          (Std.TreeSet.mem_iff_contains.mpr hseen)⟩
  | case4 seen i waiting hgoal hseen f hcell =>
      intro hwait
      rw [cell_of_mem (hwait i List.mem_cons_self)] at hcell
      cases hcell
  | case5 seen i waiting hgoal hseen c hcell ih =>
      intro hwait
      have hi : i ∈ g := hwait i List.mem_cons_self
      have hedges : edges c = g.edgesAt edges i := by
        rw [cell_of_mem hi] at hcell
        cases hcell
        rw [edgesAt_of_mem hi]
      rw [hedges] at ih
      rw [walk_visit hgoal (Bool.eq_false_iff.mpr hseen) hcell, hedges]
      have hjoin : ∀ w ∈ direction.join (g.edgesAt edges i) waiting, w ∈ g := by
        intro w hw
        rcases Direction.mem_join.mp hw with hw | hw
        · exact hg i w ⟨hi, hw⟩
        · exact hwait w (List.mem_cons_of_mem _ hw)
      rcases ih hjoin with ⟨heq, t, ht, w, hw, hreach⟩ | ⟨visited, heq, hvisits⟩
      · rw [heq]
        refine Or.inl ⟨rfl, t, ht, ?_⟩
        rcases Direction.mem_join.mp hw with hedge | hw
        · exact ⟨i, List.mem_cons_self, .head ⟨hi, hedge⟩ hreach⟩
        · exact ⟨w, List.mem_cons_of_mem _ hw, hreach⟩
      · rw [heq]
        have hnot : i ∉ seen := fun hmem =>
          hseen (Std.TreeSet.mem_iff_contains.mp hmem)
        exact Or.inr ⟨i :: visited, rfl, hvisits.visit hgoal hnot hi⟩

-- ======================================================== its two uses

/-- Following dependencies tells whether they lead to the target. -/
theorem leadsTo_spec (hg : g.Closed Cell.dependencies) (hstart : start ∈ g) :
    ∃ b, g.leadsTo start target = .ok b ∧
    (b = true ↔ ReflTransGen g.Reads start target) := by
  have hwait : ∀ w ∈ [start], w ∈ g := fun w hw => List.mem_singleton.mp
    hw ▸ hstart
  unfold leadsTo
  rcases @walk_spec _ _ .deep (some target) hg ∅ [start] hwait with
    ⟨heq, t, ht, w, hw, hreach⟩ | ⟨visited, heq, hvisits⟩
  · cases ht
    rw [List.mem_singleton.mp hw] at hreach
    exact ⟨true, by rw [heq]; rfl, fun _ => hreach, fun _ => rfl⟩
  · refine ⟨false, by
      rw [heq]; rfl, fun h => absurd h Bool.false_ne_true, fun hreach => ?_⟩
    have hmem := hvisits.mem_of_reach List.mem_cons_self hreach
    exact absurd rfl (hvisits.missed target hmem)

/-- The affected cells are the others that can be reached along dependents. -/
theorem affected_spec (hg : g.Closed Cell.dependents) (hroot : root ∈ g) :
    ∃ l, g.affected root = .ok l ∧ l.Nodup ∧
      ∀ x, x ∈ l ↔ x ≠ root ∧ ReflTransGen g.Feeds root x := by
  have hvisit : g.walk Cell.dependents .level none ∅ [root] =
      (g.walk Cell.dependents .level none ((∅ : Std.TreeSet Int).insert root)
        (Direction.level.join (g.cellAt root).dependents [])).map
          (Option.map (root :: ·)) :=
    walk_visit nofun Std.TreeSet.contains_emptyc (cell_of_mem hroot)
  have hedges : ∀ w ∈ Direction.level.join (g.cellAt root).dependents [],
      w ∈ g := by
    intro w hw
    refine hg root w (feeds_iff.mpr ⟨hroot, ?_⟩)
    simpa [Direction.mem_join] using hw
  rw [affected, hvisit]
  rcases @walk_spec _ _ .level none hg ((∅ : Std.TreeSet Int).insert root)
    _ hedges with
    ⟨_, t, ht, _⟩ | ⟨visited, heq, hvisits⟩
  · cases ht
  · have hseen : ∀ x, x ∈ (∅ : Std.TreeSet Int).insert root ↔ x = root := by
      intro x
      rw [Std.TreeSet.mem_insert, Std.compare_eq_iff_eq]
      exact ⟨fun h => (h.resolve_right Std.TreeSet.not_mem_emptyc).symm,
        fun h => Or.inl h.symm⟩
    refine ⟨visited, ?_, hvisits.nodup, fun x => ⟨fun hx => ?_,
      fun ⟨hne, hreach⟩ => ?_⟩⟩
    · rw [heq]
      rfl
    · obtain ⟨w, hw, hreach⟩ := hvisits.reached x hx
      have hstep : g.Feeds root w :=
        feeds_iff.mpr ⟨hroot, by simpa [Direction.mem_join] using hw⟩
      exact ⟨fun h => hvisits.fresh x hx ((hseen x).mpr h), .head hstep hreach⟩
    · -- the root and what is visited are closed under the edges
      have hclosed : ∀ y, ReflTransGen g.Feeds root y → y = root ∨
          y ∈ visited := by
        intro y hy
        induction hy with
        | refl => exact Or.inl rfl
        | @tail y z _ hstep ih =>
            rcases ih with rfl | hmem
            · refine (hvisits.waited z ?_).imp_left (hseen z).mp
              exact Direction.mem_join.mpr (Or.inl (feeds_iff.mp hstep).2)
            · exact (hvisits.closed y hmem z hstep).imp_left (hseen z).mp
      exact (hclosed x hreach).resolve_left hne

end Grid

end Worksheet
