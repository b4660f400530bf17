/-
The order of recomputation on any graph.

All that is asked of a grid here is that the dependents of its cells lie on
it. Cells may wait for each other in a circle, edges may be listed more than
once, and the dependencies need not match the dependents.

# Which cells are found, and in what order

The affected cells are met by going through the dependents of the root, then
through those of the first cell met, of the second, and so on. Hence the
root and the cells met are the first occurrences in the row of the root and
of all these dependents (`Discovered.queue`). There is one list like this for
every root (`Discovered.unique`).

# What holds a cell up

Only edges between affected cells count. The root is not affected: what it
feeds does not wait for it, even if the root is fed in turn. A cell is held
up when it lies on a circle of affected cells or behind one (`HeldUp`).

A cell is placed when all the affected cells that feed it are placed. Along
a path of placed cells places only go up, so none of them is on a circle
(`idxOf_lt_of_path`). A cell that is not placed is fed by another such cell,
that one by a third, and there are only so many: the path runs in a circle
at last (`exists_cycle_of_stuck`).
-/
import Worksheet.Proofs.Grid.Graph

namespace Worksheet

open Relation (ReflTransGen TransGen)

namespace Grid

variable {g : Grid} {edges : Cell → List Int} {seen : Std.TreeSet Int}
  {root x u v : Int} {l l' waiting visited order placed met : List Int}

-- ============================================================== discovery

/-- The cells that depend on the root, in the order in which a queue meets them:
the dependents of the root, then those of the first cell met, then those of the
second, each cell where it is met first. -/
structure Discovered (g : Grid) (root : Int) (l : List Int) : Prop where
  mem_iff : ∀ x, x ∈ l ↔ x ≠ root ∧ TransGen g.Feeds root x
  queue : root :: l = (root :: (root :: l).flatMap g.dependentsOf).eraseDups

/-- A walk by levels visits what waits and then what its visits lead to, each
cell where it occurs first, the cells seen before aside. -/
private theorem queue_of_walk
    (hwalk : g.walk edges .level none seen waiting = .ok (some visited)) :
    visited = ((waiting ++ visited.flatMap (g.edgesAt edges)).filter
      (!seen.contains ·)).eraseDups := by
  induction seen, waiting using walk.induct g edges .level none
    generalizing visited with
  | case1 seen =>
      rw [walk_nil] at hwalk
      cases hwalk
      rfl
  | case2 seen i waiting hgoal => cases hgoal
  | case3 seen i waiting hgoal hseen ih =>
      rw [walk_seen hgoal hseen] at hwalk
      rw [List.cons_append, List.filter_cons_of_neg (by simpa using hseen)]
      exact ih hwalk
  | case4 seen i waiting hgoal hseen f hcell =>
      rw [walk_fault hgoal (Bool.eq_false_iff.mpr hseen) hcell] at hwalk
      cases hwalk
  | case5 seen i waiting hgoal hseen c hcell ih =>
      rw [walk_visit hgoal (Bool.eq_false_iff.mpr hseen) hcell] at hwalk
      have hedges : edges c = g.edgesAt edges i := by
        rw [edgesAt, cell?_of_cell hcell]
      rcases hrest : g.walk edges .level none (seen.insert i)
          (Direction.level.join (edges c) waiting) with f | (_ | rest)
      · rw [hrest] at hwalk
        cases hwalk
      · rw [hrest] at hwalk
        cases hwalk
      · rw [hrest] at hwalk
        cases hwalk
        have hqueue := ih hrest
        rw [Direction.join, hedges, List.append_assoc] at hqueue
        -- the cell is visited, and left out of all that follows
        have hout : ∀ y, (!(seen.insert i).contains y) =
            (!(y == i) && !seen.contains y) := by
          intro y
          rw [Std.TreeSet.contains_insert, Bool.not_or]
          congr 2
          rw [Bool.eq_iff_iff, beq_iff_eq, beq_iff_eq, Std.compare_eq_iff_eq,
            eq_comm]
        have hnew : seen.contains i = false := Bool.eq_false_iff.mpr hseen
        rw [List.cons_append, List.filter_cons_of_pos
          (by rw [hnew, Bool.not_false]),
          List.eraseDups_cons, List.filter_filter,
          List.flatMap_cons, ← List.filter_congr
          fun y _ => hout y, ← hqueue]

/-- The affected cells are discovered from the root. -/
theorem affected_discovered (hg : g.Closed Cell.dependents) (hroot : root ∈ g) :
    ∃ l, g.affected root = .ok l ∧ l.Nodup ∧ g.Discovered root l := by
  obtain ⟨l, heq, hnodup, hmem⟩ := affected_spec hg hroot
  refine ⟨l, heq, hnodup, fun x => ?_, ?_⟩
  · rw [hmem x, Relation.reflTransGen_iff_eq_or_transGen]
    exact and_congr_right fun hne => or_iff_right hne
  · have hwait : ∀ w ∈ [root], w ∈ g := fun w hw => List.mem_singleton.mp
      hw ▸ hroot
    rcases @walk_spec _ _ .level none hg ∅ [root] hwait with ⟨_, t, ht, _⟩
      | ⟨visited, hwalk, -⟩
    · cases ht
    · have htail : g.affected root = .ok visited.tail := by
        rw [affected, hwalk]
        rfl
      cases heq.symm.trans htail
      have hqueue := queue_of_walk hwalk
      have hall : ∀ row : List Int, row.filter (!(∅ : Std.TreeSet Int).contains
          ·) = row :=
        fun row => List.filter_eq_self.mpr fun _ _ => rfl
      rw [hall, List.singleton_append] at hqueue
      have hhead : visited = root :: visited.tail := by
        rw [hqueue, List.eraseDups_cons, List.tail_cons]
      rw [← hhead]
      exact hqueue

namespace Discovered

/-- What the first cells met lead to stands in front of what the others lead
to. -/
private theorem prefix_of_prefix (h : g.Discovered root l)
    (hmet : met <+: root :: l) :
    (root :: met.flatMap g.dependentsOf).eraseDups <+: root :: l := by
  obtain ⟨later, hlater⟩ := hmet
  have hqueue := h.queue
  rw [← hlater, List.flatMap_append, ← List.cons_append, List.eraseDups_append,
    hlater] at hqueue
  exact ⟨_, hqueue.symm⟩

/-- Cells that lead to none but themselves, the root among them, are all there
are. -/
private theorem mem_of_closed (h : g.Discovered root l) (hroot : root ∈ met)
    (hclosed : ∀ x ∈ met, ∀ y ∈ g.dependentsOf x, y ∈ met) :
    ∀ x ∈ root :: l, x ∈ met := by
  have hreach : ∀ x, TransGen g.Feeds root x → x ∈ met := by
    intro x hpath
    induction hpath with
    | single hstep => exact hclosed _ hroot _ hstep.2
    | tail _ hstep ih => exact hclosed _ ih _ hstep.2
  intro x hx
  rcases List.mem_cons.mp hx with rfl | hx
  · exact hroot
  · exact hreach x ((h.mem_iff x).mp hx).2

theorem nodup (h : g.Discovered root l) : (root :: l).Nodup := by
  rw [h.queue]
  exact nodup_eraseDups

/-- While there are others, the first cells met lead to one that is not among
them. -/
private theorem length_lt_of_prefix (h : g.Discovered root l)
    (hmet : met <+: root :: l) (hmore : met.length < (root :: l).length) :
    met.length < (root :: met.flatMap g.dependentsOf).eraseDups.length := by
  by_contra hshort
  have hsub : (root :: met.flatMap g.dependentsOf).eraseDups ⊆ met :=
    (List.prefix_of_prefix_length_le (h.prefix_of_prefix hmet) hmet
      (Nat.le_of_not_lt hshort)).subset
  have hmem : ∀ y ∈ root :: met.flatMap g.dependentsOf, y ∈ met := fun y hy =>
    hsub (List.mem_eraseDups.mpr hy)
  have hall := h.mem_of_closed (hmem root List.mem_cons_self) fun x hx y hy =>
    hmem y (List.mem_cons_of_mem _ (List.mem_flatMap.mpr ⟨x, hx, hy⟩))
  have hle := h.nodup.length_le_of_subset hall
  omega

/-- From one root there is one list. -/
theorem unique (h : g.Discovered root l) (h' : g.Discovered root l') :
    l = l' := by
  have hperm : l.Perm l' := (List.perm_ext_iff_of_nodup h.nodup.of_cons
    h'.nodup.of_cons).mpr
    fun x => (h.mem_iff x).trans (h'.mem_iff x).symm
  -- cells met first on both lists are followed by the same next one
  have htake : ∀ n, n ≤ (root :: l).length →
      (root :: l).take n = (root :: l').take n := by
    intro n
    induction n with
    | zero => exact fun _ => rfl
    | succ n ih =>
        intro hn
        have hsame := ih (by omega)
        have hlen : ((root :: l).take n).length = n :=
          List.length_take_of_le (by omega)
        have hlonger := h.length_lt_of_prefix (List.take_prefix n _) (by omega)
        obtain ⟨more, hmore⟩ := h.prefix_of_prefix (List.take_prefix n _)
        obtain ⟨more', hmore'⟩ := h'.prefix_of_prefix (List.take_prefix n _)
        rw [← hsame] at hmore'
        rw [← hmore, ← hmore', List.take_append_of_le_length (by omega),
          List.take_append_of_le_length (by omega)]
  have hend := htake _ (Nat.le_refl _)
  rw [List.take_length, List.length_cons, hperm.length_eq, ← List.length_cons
    (a := root), List.take_length] at hend
  exact List.tail_eq_of_cons_eq hend

end Discovered

-- =============================================================== held up

/-- One edge between affected cells. -/
def Within (g : Grid) (l : List Int) (u v : Int) : Prop :=
  u ∈ l ∧ v ∈ l ∧ v ∈ g.dependentsOf u

/-- The cell lies on a circle of affected cells, or behind one. -/
def HeldUp (g : Grid) (l : List Int) (x : Int) : Prop :=
  ∃ c, TransGen (g.Within l) c c ∧ ReflTransGen (g.Within l) c x

/-- Every cell stands before those that it feeds, as far as they are listed. -/
def InOrder (g : Grid) (order : List Int) : Prop :=
  ∀ u ∈ order, ∀ v ∈ order, v ∈ g.dependentsOf u → order.idxOf u < order.idxOf v

/-- It is enough that no cell feeds itself or one that stands before it. -/
private theorem inOrder_of_pairwise
    (hordered : order.Pairwise fun a b => a ∉ g.dependentsOf b)
    (hloopless : ∀ a ∈ order, a ∉ g.dependentsOf a) : g.InOrder order := by
  intro u hu v hv hedge
  have hu' := List.idxOf_lt_length_iff.mpr hu
  have hv' := List.idxOf_lt_length_iff.mpr hv
  rcases Nat.lt_trichotomy (order.idxOf u) (order.idxOf v) with hlt | heq | hgt
  · exact hlt
  · rw [List.idxOf_inj hu] at heq
    exact absurd hedge (heq ▸ hloopless u hu)
  · have hnot := List.pairwise_iff_getElem.mp hordered _ _ hv' hu' hgt
    rw [List.getElem_idxOf, List.getElem_idxOf] at hnot
    exact absurd hedge hnot

section

variable (hclosed : ∀ a ∈ placed, ∀ u ∈ l, a ∈ g.dependentsOf u → u ∈ placed)

include hclosed

/-- What leads to a placed cell is placed. -/
private theorem mem_placed_of_reach (hreach : ReflTransGen (g.Within l) u v)
    (hv : v ∈ placed) :
    u ∈ placed := by
  induction hreach using ReflTransGen.head_induction_on with
  | refl => exact hv
  | head hstep _ ih => exact hclosed _ ih _ hstep.1 hstep.2.2

/-- And it is placed earlier. -/
theorem idxOf_lt_of_path (horder : g.InOrder placed)
    (hpath : TransGen (g.Within l) u v)
    (hv : v ∈ placed) : placed.idxOf u < placed.idxOf v := by
  induction hpath using TransGen.head_induction_on with
  | @single u hstep =>
      exact horder u (hclosed v hv u hstep.1 hstep.2.2) v hv hstep.2.2
  | @head u w hstep hrest ih =>
      have hw := mem_placed_of_reach hclosed hrest.to_reflTransGen hv
      exact (horder u (hclosed w hw u hstep.1 hstep.2.2)
        w hw hstep.2.2).trans ih

end

/-- The affected cells are sorted into those that are not held up, in order, and
the others. -/
private theorem sortAffected_heldUp (hl : l.Nodup) :
    ∃ free, g.sortAffected l = free ++ l.filter (!free.contains ·) ∧
      free.Nodup ∧ (∀ x, x ∈ free ↔ x ∈ l ∧ ¬ g.HeldUp l x) ∧
      g.InOrder free := by
  obtain ⟨placed, hsort, hnodup, hsub, hordered, hloopless, hclosed, hstuck⟩ :=
    @sortAffected_spec g l hl
  have horder := inOrder_of_pairwise hordered hloopless
  refine ⟨placed, hsort, hnodup, fun x => ⟨fun hx => ⟨hsub hx, ?_⟩,
    fun ⟨hx, hfree⟩ => ?_⟩, horder⟩
  · rintro ⟨c, hcycle, hreach⟩
    have hc := mem_placed_of_reach hclosed hreach hx
    exact Nat.lt_irrefl _ (idxOf_lt_of_path hclosed horder hcycle hc)
  · by_contra hnot
    refine hfree (exists_cycle_of_stuck (P := fun y => y ∈ l ∧ y ∉ placed)
      (fun y hy => hy.1) (fun y hy => ?_) x ⟨hx, hnot⟩)
    obtain ⟨u, hu, hunot, hedge⟩ := hstuck y hy.1 hy.2
    exact ⟨u, ⟨hu, hunot⟩, hu, hy.1, hedge⟩

-- ========================================================= the whole order

/-- On any graph, the order of recomputation lists the cells that depend on the
root, each once and without the root. First stand those that are not held up,
each before the cells that it feeds; the others follow as they were discovered.
If there is no circle among the affected cells, all of them are in order. -/
theorem recomputationOrder_exact (hg : g.Closed Cell.dependents)
    (hroot : root ∈ g) :
    ∃ order free l, g.recomputationOrder root = .ok order ∧ order.Nodup ∧
      (∀ x, x ∈ order ↔ x ≠ root ∧ TransGen g.Feeds root x) ∧
      g.Discovered root l ∧ order = free ++ l.filter (!free.contains ·) ∧
      (∀ x, x ∈ free ↔ x ∈ l ∧ ¬ g.HeldUp l x) ∧ g.InOrder free ∧
      ((∀ x, ¬ TransGen (g.Within l) x x) → g.InOrder order) := by
  obtain ⟨l, haffected, hnodup, hl⟩ := affected_discovered hg hroot
  obtain ⟨free, hsort, hfree, hmem, horder⟩ := @sortAffected_heldUp g l hnodup
  have hsplit : ∀ x, x ∈ free ++ l.filter (!free.contains ·) ↔ x ∈ l := by
    intro x
    rw [List.mem_append, List.mem_filter]
    by_cases hx : x ∈ free
    · exact iff_of_true (Or.inl hx) ((hmem x).mp hx).1
    · simp [hx]
  refine ⟨_, free, l, ?_, ?_, fun x => (hsplit x).trans (hl.mem_iff x), hl, rfl,
    hmem, horder,
    fun hacyclic => ?_⟩
  · rw [recomputationOrder, haffected, ← hsort]
    rfl
  · refine List.nodup_append.mpr ⟨hfree, hnodup.filter _,
      fun a ha b hb heq => ?_⟩
    simp [← heq, ha] at hb
  · have hrest : l.filter (!free.contains ·) = [] := by
      refine List.filter_eq_nil_iff.mpr fun x hx => ?_
      have hnot : ¬ g.HeldUp l x := by
        rintro ⟨c, hcycle, -⟩
        exact hacyclic c hcycle
      simpa using (hmem x).mpr ⟨hx, hnot⟩
    rw [hrest, List.append_nil]
    exact horder

/-- The cell at `i` as far as the order of recomputation looks at it. -/
def feeding (i : Int) (dependents : List Int) : Cell :=
  { Cell.blank i with dependents }

/-- The second row feeds back into the root, the last two cells wait for each
other, and some edges are listed twice. The third cell is met after the second
and placed before it. -/
def tangled : Grid :=
  ⟨#[feeding 0 [1, 2, 2], feeding 1 [3], feeding 2 [1, 1, 4], feeding 3 [0],
    feeding 4 [5], feeding 5 [4]], 3⟩

private theorem closed_tangled : tangled.Closed Cell.dependents :=
  closed_of_cells (by decide)

theorem recomputationOrder_exact_tangled :
    ∃ order free l, tangled.recomputationOrder 0 = .ok order ∧ order.Nodup ∧
      (∀ x, x ∈ order ↔ x ≠ 0 ∧ TransGen tangled.Feeds 0 x) ∧
      tangled.Discovered 0 l ∧ order = free ++ l.filter (!free.contains ·) ∧
      (∀ x, x ∈ free ↔ x ∈ l ∧ ¬ tangled.HeldUp l x) ∧ tangled.InOrder free ∧
      ((∀ x, ¬ TransGen (tangled.Within l) x x) → tangled.InOrder order) :=
  recomputationOrder_exact closed_tangled (by decide)

example : tangled.recomputationOrder 0 = .ok [2, 1, 3, 4, 5] := by
  decide +kernel

end Grid

end Worksheet
