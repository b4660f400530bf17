/-
How long a search for a circle takes.

A search along dependencies goes in rounds. Each round takes the next cell off
those that wait: the target ends the search, a cell that was seen before is
passed over, and a new cell puts what it reads in front. Edges may run in
circles and be listed twice, so a cell can wait many times over, and a round can
leave more cells waiting than there were.

# Why there are only so many rounds

A cell lets others wait when it is visited, and it is visited once. So each
round is one for a cell that waits now or one for an edge of a cell that was not
seen yet (`Search.rounds_le`). A search from one cell therefore ends after at
most one round more than the cells of the grid list dependencies.
-/
import Worksheet.Proofs.Grid.Reach

namespace Worksheet

namespace Grid

open Relation (ReflTransGen)

-- ============================================================== the rounds

/-- From the cells that were seen and those that wait, a number of rounds lead
to the answer whether the target is met. -/
inductive Search (g : Grid) (target : Int) : Std.TreeSet Int → List Int → Nat →
    Bool → Prop where
  /-- Nothing waits any more. -/
  | missed {seen : Std.TreeSet Int} : Search g target seen [] 0 false
  | met {seen : Std.TreeSet Int} {waiting : List Int} :
      Search g target seen (target :: waiting) 1 true
  | pass {seen : Std.TreeSet Int} {i : Int} {waiting : List Int} {n : Nat}
      {b : Bool} :
      i ≠ target → i ∈ seen → Search g target seen waiting n b →
      Search g target seen (i :: waiting) (n + 1) b
  /-- The cell that a new cell reads last is the next one. -/
  | visit {seen : Std.TreeSet Int} {i : Int} {c : Cell} {waiting : List Int}
      {n : Nat} {b : Bool} :
      i ≠ target → i ∉ seen → g.cell i = .ok c →
      Search g target (seen.insert i) (c.dependencies.reverse ++ waiting) n b →
      Search g target seen (i :: waiting) (n + 1) b

variable {g : Grid} {start target : Int} {seen : Std.TreeSet Int}
  {waiting ahead : List Int} {n : Nat} {b : Bool}

/-- Rounds lead to the answer of the walk. -/
theorem Search.walk_eq (h : g.Search target seen waiting n b) :
    (g.walk Cell.dependencies .deep (some target) seen waiting).map
      Option.isNone = .ok b := by
  have hgoal : ∀ {i : Int}, i ≠ target → some target ≠ some i := fun hne heq =>
    hne (Option.some.inj heq).symm
  induction h with
  | missed =>
      rw [walk_nil]
      rfl
  | met =>
      rw [walk_goal rfl]
      rfl
  | pass hne hi _ ih =>
      rw [walk_seen (hgoal hne) (Std.TreeSet.mem_iff_contains.mp hi)]
      exact ih
  | visit hne hi hc _ ih =>
      rw [walk_visit (hgoal hne) (Bool.eq_false_iff.mpr hi) hc, ← ih,
        Direction.join]
      cases g.walk Cell.dependencies .deep (some target) _ _ with
      | error f => rfl
      | ok answer => cases answer <;> rfl

/-- A walk that answers is one of some number of rounds. -/
theorem exists_search {answer : Option (List Int)}
    (h : g.walk Cell.dependencies .deep (some target) seen waiting =
      .ok answer) :
    ∃ n, g.Search target seen waiting n answer.isNone := by
  induction seen, waiting using walk.induct g Cell.dependencies
    .deep (some target) generalizing answer with
  | case1 seen =>
      rw [walk_nil] at h
      cases h
      exact ⟨0, .missed⟩
  | case2 seen i waiting hgoal =>
      rw [walk_goal hgoal] at h
      cases h
      cases hgoal
      exact ⟨1, .met⟩
  | case3 seen i waiting hgoal hseen ih =>
      rw [walk_seen hgoal hseen] at h
      obtain ⟨n, hrest⟩ := ih h
      exact ⟨n + 1, .pass (fun heq => hgoal (heq ▸ rfl))
        (Std.TreeSet.mem_iff_contains.mpr hseen) hrest⟩
  | case4 seen i waiting hgoal hseen f hcell =>
      rw [walk_fault hgoal (Bool.eq_false_iff.mpr hseen) hcell] at h
      cases h
  | case5 seen i waiting hgoal hseen c hcell ih =>
      rw [walk_visit hgoal (Bool.eq_false_iff.mpr hseen) hcell] at h
      cases hrest : g.walk Cell.dependencies .deep (some target) (seen.insert i)
          (Direction.deep.join c.dependencies waiting) with
      | error f =>
          rw [hrest] at h
          cases h
      | ok rest =>
          rw [hrest] at h
          cases h
          obtain ⟨n, hrounds⟩ := ih hrest
          refine ⟨n + 1, .visit (fun heq => hgoal (heq ▸ rfl))
            (fun hmem => hseen (Std.TreeSet.mem_iff_contains.mp hmem)) hcell ?_⟩
          rw [Option.isNone_map]
          exact hrounds

/-- Following dependencies is a search that starts with one cell and nothing
seen. -/
theorem leadsTo_eq_ok_iff : g.leadsTo start target = .ok b ↔
    ∃ n, g.Search target ∅ [start] n b := by
  unfold leadsTo
  constructor
  · intro h
    cases hwalk : g.walk Cell.dependencies .deep (some target) ∅ [start] with
    | error f =>
        rw [hwalk] at h
        cases h
    | ok answer =>
        rw [hwalk] at h
        cases h
        exact exists_search hwalk
  · intro ⟨n, h⟩
    exact h.walk_eq

-- =============================================================== the bound

/-- What waits and what the cells that were not seen yet read allow for all the
rounds. -/
theorem Search.rounds_le (hg : g.Closed Cell.dependencies)
    (h : g.Search target seen waiting n b) (hwaiting : ∀ w ∈ waiting, w ∈ g)
    (hahead : ∀ i ∈ g, i ∉ seen → i ∈ ahead) :
    n ≤ waiting.length + (ahead.flatMap fun i =>
      (g.cellAt i).dependencies).length := by
  induction h generalizing ahead with
  | missed => exact Nat.zero_le _
  | met =>
      rw [List.length_cons]
      omega
  | pass _ _ _ ih =>
      have := ih (fun w hw => hwaiting w (List.mem_cons_of_mem _ hw)) hahead
      rw [List.length_cons]
      omega
  | @visit seen i c waiting n b _ hi hc _ ih =>
      have hon : i ∈ g := hwaiting i List.mem_cons_self
      have hcell : g.cellAt i = c := cellAt_of_cell hc
      -- the visit takes the cell off those ahead, and its edges with it
      have hpaid : (ahead.flatMap fun i => (g.cellAt i).dependencies).length =
          c.dependencies.length +
            ((ahead.erase i).flatMap fun i =>
              (g.cellAt i).dependencies).length := by
        rw [((List.perm_cons_erase (hahead i hon hi)).flatMap_right
          _).length_eq, List.flatMap_cons, List.length_append, hcell]
      have hnext : ∀ w ∈ c.dependencies.reverse ++ waiting, w ∈ g := by
        intro w hw
        rcases List.mem_append.mp hw with hw | hw
        · rw [List.mem_reverse, ← hcell] at hw
          exact hg i w (reads_iff.mpr ⟨hon, hw⟩)
        · exact hwaiting w (List.mem_cons_of_mem _ hw)
      have hleft : ∀ k ∈ g, k ∉ seen.insert i → k ∈ ahead.erase i := by
        intro k hk hnot
        rw [Std.TreeSet.mem_insert, Std.compare_eq_iff_eq, not_or] at hnot
        exact (List.mem_erase_of_ne (Ne.symm hnot.1)).mpr (hahead k hk hnot.2)
      have := ih hnext hleft
      rw [List.length_append, List.length_reverse] at this
      rw [List.length_cons, hpaid]
      omega

/-- On any grid whose dependencies lie on it, following them from a cell of the
grid comes to an answer, and this tells whether the target can be reached in any
number of steps. The search takes at most one round for the start and one for
every dependency that a cell lists. -/
theorem leadsTo_exact (hg : g.Closed Cell.dependencies) (hstart : start ∈ g) :
    ∃ b, g.leadsTo start target = .ok b ∧
      (b = true ↔ ReflTransGen g.Reads start target) ∧
      ∃ n ≤ 1 + (g.cells.toList.flatMap Cell.dependencies).length,
        g.Search target ∅ [start] n b := by
  obtain ⟨b, heq, hreach⟩ := @leadsTo_spec g start target hg hstart
  obtain ⟨n, hsearch⟩ := leadsTo_eq_ok_iff.mp heq
  refine ⟨b, heq, hreach, n, ?_, hsearch⟩
  have hwaiting : ∀ w ∈ [start], w ∈ g :=
    fun w hw => List.mem_singleton.mp hw ▸ hstart
  have hall : ∀ i ∈ g, i ∉ (∅ : Std.TreeSet Int) →
      i ∈ (List.range g.size).map fun k : Nat => (k : Int) := fun i hi _ =>
    List.mem_map.mpr ⟨i.toNat, List.mem_range.mpr (toNat_lt hi),
      Int.toNat_of_nonneg hi.1⟩
  have hbound := hsearch.rounds_le hg hwaiting hall
  rw [List.flatMap_map] at hbound
  rw [toList_cells, List.flatMap_map]
  exact hbound

/-- Circles, repeated edges and edges that only one end knows: the first two
cells read each other twice, the third one reads itself and the second, and none
of them leads to the last. -/
theorem leadsTo_exact_circles :
    let g : Grid := ⟨#[⟨0, "", none, [1, 1], []⟩, ⟨1, "", none, [0, 0], [2]⟩,
      ⟨2, "", none, [2, 1], []⟩, ⟨3, "", none, [2], []⟩], 2⟩
    g.leadsTo 2 3 = .ok false ∧ ¬ ReflTransGen g.Reads 2 3 ∧
      ∃ n ≤ 8, g.Search 3 ∅ [2] n false := by
  intro g
  have hanswer : g.leadsTo 2 3 = .ok false := by decide +kernel
  obtain ⟨b, heq, hreach, n, hn, hsearch⟩ := @leadsTo_exact g 2 3
    (closed_of_cells (by decide)) (by decide)
  cases heq.symm.trans hanswer
  exact ⟨hanswer, fun hpath => Bool.false_ne_true (hreach.mpr hpath), n,
    hn, hsearch⟩

end Grid

end Worksheet
