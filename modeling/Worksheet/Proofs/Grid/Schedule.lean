/-
The order of recomputation puts readers after what they read.

A schedule counts, for every affected cell, the edges that still lead into
it from affected cells not yet placed. The count is by edges, not by
cells: an edge that is listed twice is counted twice and taken away twice.
One invariant (`Schedule.Counts`) ties the counters to a list of edges
still to be taken away, and says that the cells placed or ready are those
that none of these edges leads into. Taking away one edge keeps it, and so
does placing a cell, when the list is read as the edges of the cells not
placed.

It follows, on any graph, what the sorted list is like (`sortAffected_spec`):
a first part in which no cell has an edge to an earlier one or to itself,
and a rest in which every cell has an edge from another cell of the rest.
-/
import Mathlib.Data.List.Nodup
import Worksheet.Grid.Order

namespace Worksheet

variable {g : Grid} {l edges more : List Int} {s : Schedule} {i x : Int}

namespace Schedule

-- ============================================================ the counters

/-- The counters agree with a list of edges that are still to be taken away,
each given by the cell it leads into. -/
structure Counts (l edges : List Int) (s : Schedule) : Prop where
  incoming : ∀ x, s.incoming[x]? = if x ∈ l then some (edges.count x) else none
  free : ∀ x, x ∈ s.placed ++ s.ready ↔ x ∈ l ∧ x ∉ edges
  nodup : (s.placed ++ s.ready).Nodup

/-- Only how often an edge is listed matters. -/
private theorem Counts.perm (hperm : edges.Perm more) (h : Counts l edges s) :
    Counts l more s where
  incoming := fun x => by rw [h.incoming x, hperm.count_eq x]
  free := fun x => by rw [h.free x, hperm.mem_iff]
  nodup := h.nodup

private theorem dropEdge_last (h : s.incoming[i]? = some 1) :
    s.dropEdge i = ⟨s.incoming.insert i 0, s.ready ++ [i], s.placed⟩ := by
  unfold Schedule.dropEdge
  rw [h]
  rfl

private theorem dropEdge_more {n : Nat} (h : s.incoming[i]? = some (n + 2)) :
    s.dropEdge i = ⟨s.incoming.insert i (n + 1), s.ready, s.placed⟩ := by
  unfold Schedule.dropEdge
  rw [h]
  rfl

private theorem dropEdge_other (h : s.incoming[i]? = none) :
    s.dropEdge i = s := by
  unfold Schedule.dropEdge
  rw [h]

/-- One edge less into a cell is what its counter then shows. -/
private theorem Counts.getElem?_insert (h : Counts l (i :: edges) s)
    (hi : i ∈ l) :
    (s.incoming.insert i (edges.count i))[x]? =
      if x ∈ l then some (edges.count x) else none := by
  rw [Std.TreeMap.getElem?_insert]
  by_cases hx : i = x
  · subst hx
    rw [if_pos (Std.compare_eq_iff_eq.mpr rfl), if_pos hi]
  · rw [if_neg (mt Std.compare_eq_iff_eq.mp hx), h.incoming x,
      List.count_cons_of_ne hx]

/-- An edge more makes no difference to who is free when its cell has
others, or does not count at all. -/
private theorem free_cons_iff (hi : i ∈ l → i ∈ edges) :
    x ∈ l ∧ x ∉ i :: edges ↔ x ∈ l ∧ x ∉ edges := by
  rw [List.mem_cons, not_or]
  constructor
  · exact fun ⟨hxl, _, hx⟩ => ⟨hxl, hx⟩
  · exact fun ⟨hxl, hx⟩ => ⟨hxl, fun heq => hx (heq ▸ hi (heq ▸ hxl)), hx⟩

/-- Taking an edge away is what the counters record. -/
theorem Counts.dropEdge (h : Counts l (i :: edges) s) :
    Counts l edges (s.dropEdge i) := by
  have hi := h.incoming i
  by_cases hmem : i ∈ l
  · rw [if_pos hmem, List.count_cons_self] at hi
    cases hcount : edges.count i with
    | zero =>
        -- the last edge into the cell: it becomes ready
        have hnot : i ∉ edges := List.count_eq_zero.mp hcount
        have hbusy : i ∉ s.placed ++ s.ready := fun hin =>
          ((h.free i).mp hin).2 List.mem_cons_self
        rw [hcount] at hi
        rw [dropEdge_last hi]
        refine ⟨fun x => ?_, fun x => ?_, ?_⟩
        · rw [← hcount]
          exact h.getElem?_insert hmem
        · rw [← List.append_assoc, List.mem_append, h.free x,
            List.mem_singleton, List.mem_cons, not_or]
          constructor
          · rintro (⟨hxl, -, hx⟩ | rfl)
            · exact ⟨hxl, hx⟩
            · exact ⟨hmem, hnot⟩
          · rintro ⟨hxl, hx⟩
            by_cases hxi : x = i
            · exact Or.inr hxi
            · exact Or.inl ⟨hxl, hxi, hx⟩
        · rw [← List.append_assoc]
          refine List.nodup_append.mpr ⟨h.nodup, List.nodup_singleton _, ?_⟩
          intro a ha b hb heq
          rw [List.mem_singleton] at hb
          exact hbusy (hb ▸ heq ▸ ha)
    | succ n =>
        have hin : i ∈ edges := List.count_pos_iff.mp (by omega)
        rw [hcount] at hi
        rw [dropEdge_more hi]
        refine ⟨fun x => ?_, fun x => ?_, h.nodup⟩
        · rw [← hcount]
          exact h.getElem?_insert hmem
        · rw [h.free x, free_cons_iff fun _ => hin]
  · rw [if_neg hmem] at hi
    rw [dropEdge_other hi]
    refine ⟨fun x => ?_, fun x => ?_, h.nodup⟩
    · rw [h.incoming x]
      by_cases hx : x ∈ l
      · have hne : i ≠ x := fun heq => hmem (heq ▸ hx)
        rw [if_pos hx, if_pos hx, List.count_cons_of_ne hne]
      · rw [if_neg hx, if_neg hx]
    · rw [h.free x, free_cons_iff fun hil => absurd hil hmem]

private theorem placed_dropEdge : (s.dropEdge i).placed = s.placed := by
  unfold Schedule.dropEdge
  split <;> rfl

private theorem placed_foldl_dropEdge :
    (edges.foldl Schedule.dropEdge s).placed = s.placed := by
  induction edges generalizing s with
  | nil => rfl
  | cons i edges ih => rw [List.foldl_cons, ih, placed_dropEdge]

private theorem Counts.foldl_dropEdge (h : Counts l (edges ++ more) s) :
    Counts l more (edges.foldl Schedule.dropEdge s) := by
  induction edges generalizing s with
  | nil => exact h
  | cons i edges ih => exact ih h.dropEdge

-- =============================================================== the start

private theorem getElem?_countEdge (m : Std.TreeMap Int Nat) :
    (countEdge m i)[x]? = if i = x then m[x]?.map (· + 1) else m[x]? := by
  unfold countEdge
  by_cases hx : i = x
  · subst hx
    cases hm : m[i]? with
    | none => simp [hm]
    | some n => simp
  · cases hm : m[i]? with
    | none => rw [if_neg hx]
    | some n =>
        rw [if_neg hx, Std.TreeMap.getElem?_insert,
          if_neg (mt Std.compare_eq_iff_eq.mp hx)]

private theorem getElem?_foldl_countEdge (m : Std.TreeMap Int Nat) :
    (edges.foldl countEdge m)[x]? = m[x]?.map (· + edges.count x) := by
  induction edges generalizing m with
  | nil => cases hm : m[x]? <;> simp [hm]
  | cons i edges ih =>
      rw [List.foldl_cons, ih, getElem?_countEdge]
      by_cases hx : i = x
      · subst hx
        cases hm : m[i]? with
        | none => simp
        | some n =>
            simp only [if_true, Option.map_some, List.count_cons_self]
            congr 1
            omega
      · rw [if_neg hx, List.count_cons_of_ne hx]

private theorem getElem?_foldl_zero (m : Std.TreeMap Int Nat) :
    (l.foldl (fun m i => m.insert i 0) m)[x]? =
      if x ∈ l then some 0 else m[x]? := by
  induction l generalizing m with
  | nil => simp
  | cons i l ih =>
      rw [List.foldl_cons, ih, Std.TreeMap.getElem?_insert]
      by_cases hx : i = x
      · subst hx
        simp
      · have hx' : x ≠ i := fun heq => hx heq.symm
        simp [hx, hx']

/-- In the beginning all edges between affected cells are to be taken away. -/
private theorem counts_start (hl : l.Nodup) :
    Counts l (l.flatMap g.dependentsOf) (Schedule.start g l) := by
  have hincoming : ∀ x, (Schedule.start g l).incoming[x]? =
      if x ∈ l then some ((l.flatMap g.dependentsOf).count x) else none := by
    intro x
    unfold Schedule.start
    dsimp only
    rw [getElem?_foldl_countEdge, getElem?_foldl_zero]
    by_cases hx : x ∈ l <;> simp [hx]
  refine ⟨hincoming, fun x => ?_, hl.filter _⟩
  show x ∈ [] ++ l.filter _ ↔ _
  rw [List.nil_append, List.mem_filter]
  refine and_congr_right fun hx => ?_
  have hget := hincoming x
  rw [if_pos hx] at hget
  show ((Schedule.start g l).incoming[x]? == some 0) = true ↔ _
  rw [hget, beq_iff_eq, Option.some_inj, List.count_eq_zero]

-- ============================================================= the rounds

/-- The edges of the affected cells that are not placed. -/
def edgesLeft (g : Grid) (l placed : List Int) : List Int :=
  (l.filter (!placed.contains ·)).flatMap g.dependentsOf

private theorem mem_edgesLeft {placed : List Int} :
    x ∈ edgesLeft g l placed ↔ ∃ u ∈ l, u ∉ placed ∧ x ∈ g.dependentsOf u := by
  unfold edgesLeft
  rw [List.mem_flatMap]
  constructor
  · rintro ⟨u, hu, hx⟩
    rw [List.mem_filter] at hu
    exact ⟨u, hu.1, by simpa using hu.2, hx⟩
  · rintro ⟨u, hu, hnot, hx⟩
    exact ⟨u, List.mem_filter.mpr ⟨hu, by simpa using hnot⟩, hx⟩

/-- Placing one more cell takes its own edges off those left. -/
private theorem edgesLeft_perm {placed : List Int} (hl : l.Nodup) (hi : i ∈ l)
    (hnot : i ∉ placed) :
    (edgesLeft g l placed).Perm (g.dependentsOf i ++
      edgesLeft g l (placed ++ [i])) := by
  have hmem : i ∈ l.filter (!placed.contains ·) :=
    List.mem_filter.mpr ⟨hi, by simpa using hnot⟩
  have hrest : (l.filter (!placed.contains ·)).erase i =
      l.filter (!(placed ++ [i]).contains ·) := by
    rw [(hl.filter _).erase_eq_filter, List.filter_filter]
    refine List.filter_congr fun u _ => ?_
    by_cases hu : u = i <;> simp [hu]
  unfold edgesLeft
  rw [← hrest]
  exact (List.perm_cons_erase hmem).flatMap_right _

/-- What holds between two rounds: the counters are right, and no placed
cell has an edge to itself or to one placed before it. -/
structure Sound (g : Grid) (l : List Int) (s : Schedule) : Prop where
  counts : Counts l (edgesLeft g l s.placed) s
  ordered : s.placed.Pairwise fun a b => a ∉ g.dependentsOf b
  loopless : ∀ a ∈ s.placed, a ∉ g.dependentsOf a

private theorem sound_start (hl : l.Nodup) :
    Sound g l (Schedule.start g l) where
  counts := by
    have hall : edgesLeft g l (Schedule.start g l).placed =
        l.flatMap g.dependentsOf := by
      unfold edgesLeft
      congr 1
      exact List.filter_eq_self.mpr fun _ _ => rfl
    rw [hall]
    exact counts_start hl
  ordered := .nil
  loopless := nofun

theorem Sound.place (hl : l.Nodup) (h : Sound g l s) :
    Sound g l (s.place g) := by
  unfold Schedule.place
  cases hready : s.ready with
  | nil => exact h
  | cons i rest =>
      have hfree := h.counts.free
      have hnodup := h.counts.nodup
      rw [hready] at hfree hnodup
      obtain ⟨hil, hileft⟩ := (hfree i).mp (by simp)
      have hinot : i ∉ s.placed := fun hmem =>
        List.disjoint_of_nodup_append hnodup hmem List.mem_cons_self
      -- the cell moves from the ready ones to the placed ones, its edges are
      -- still there
      have hmoved : Counts l (edgesLeft g l s.placed)
          ⟨s.incoming, rest, s.placed ++ [i]⟩ := by
        refine ⟨h.counts.incoming, fun x => ?_, ?_⟩
        · rw [← hfree x, List.append_assoc, List.singleton_append]
        · rw [List.append_assoc, List.singleton_append]
          exact hnodup
      have hplaced := @placed_foldl_dropEdge (g.dependentsOf i)
        ⟨s.incoming, rest, s.placed ++ [i]⟩
      refine ⟨?_, ?_, ?_⟩
      · dsimp only
        rw [hplaced]
        exact (hmoved.perm (edgesLeft_perm hl hil hinot)).foldl_dropEdge
      · dsimp only
        rw [hplaced]
        refine List.pairwise_append.mpr ⟨h.ordered,
          List.pairwise_singleton _ _, ?_⟩
        intro a ha b hb hedge
        rw [List.mem_singleton] at hb
        subst hb
        exact ((hfree a).mp (List.mem_append_left _ ha)).2
          (mem_edgesLeft.mpr ⟨b, hil, hinot, hedge⟩)
      · dsimp only
        rw [hplaced]
        intro a ha hedge
        rcases List.mem_append.mp ha with ha | ha
        · exact h.loopless a ha hedge
        · rw [List.mem_singleton] at ha
          subst ha
          exact hileft (mem_edgesLeft.mpr ⟨a, hil, hinot, hedge⟩)

/-- A round places one cell, or leaves nothing ready. -/
private theorem ready_or_length_place :
    (s.place g).ready = [] ∨
      (s.place g).placed.length = s.placed.length + 1 := by
  unfold Schedule.place
  cases hready : s.ready with
  | nil => exact Or.inl hready
  | cons i rest =>
      refine Or.inr ?_
      dsimp only
      rw [placed_foldl_dropEdge, List.length_append, List.length_singleton]

/-- Once nothing is ready, further rounds change nothing. -/
private theorem foldl_place_of_ready (rounds : List Int)
    (hready : s.ready = []) :
    rounds.foldl (fun s _ => s.place g) s = s := by
  induction rounds with
  | nil => rfl
  | cons _ rounds ih =>
      have hsame : s.place g = s := by
        unfold Schedule.place
        rw [hready]
      rw [List.foldl_cons, hsame, ih]

/-- After some rounds nothing is ready, or each of them has placed a cell. -/
theorem Sound.foldl_place (hl : l.Nodup) (rounds : List Int) (h : Sound g l s) :
    Sound g l (rounds.foldl (fun s _ => s.place g) s) ∧
      ((rounds.foldl (fun s _ => s.place g) s).ready = [] ∨
        s.placed.length + rounds.length ≤
          (rounds.foldl (fun s _ => s.place g) s).placed.length) := by
  induction rounds generalizing s with
  | nil => exact ⟨h, Or.inr (Nat.le_refl _)⟩
  | cons _ rounds ih =>
      obtain ⟨hsound, hend⟩ := ih (h.place hl)
      refine ⟨hsound, ?_⟩
      rw [List.foldl_cons, List.length_cons]
      rcases @ready_or_length_place g s with hready | hlen
      · left
        rw [foldl_place_of_ready rounds hready]
        exact hready
      · exact hend.imp_right fun hle => by omega

/-- As many rounds as there are affected cells leave none of them ready. -/
theorem rounds_spec (hl : l.Nodup) :
    Sound g l (l.foldl (fun s _ => s.place g) (Schedule.start g l)) ∧
      (l.foldl (fun s _ => s.place g) (Schedule.start g l)).ready = [] := by
  obtain ⟨hsound, hend⟩ := (sound_start hl).foldl_place hl l
  refine ⟨hsound, hend.elim id fun hlen => ?_⟩
  have hsub : (l.foldl (fun s _ => s.place g) (Schedule.start g l)).placed ++
      (l.foldl (fun s _ => s.place g) (Schedule.start g l)).ready ⊆ l :=
        fun x hx =>
    ((hsound.counts.free x).mp hx).1
  have hle := hsound.counts.nodup.length_le_of_subset hsub
  have hzero : (Schedule.start g l).placed.length = 0 := rfl
  rw [List.length_append] at hle
  exact List.eq_nil_of_length_eq_zero (by omega)

end Schedule

-- ========================================================= the sorted list

/-- The affected cells are sorted into a part that is in order, together
with everything affected that has an edge into it, and a rest in which
every cell has an edge from another one. -/
theorem Grid.sortAffected_spec (hl : l.Nodup) :
    ∃ placed, g.sortAffected l = placed ++ l.filter (!placed.contains ·) ∧
      placed.Nodup ∧ placed ⊆ l ∧
      (placed.Pairwise fun a b => a ∉ g.dependentsOf b) ∧
      (∀ a ∈ placed, a ∉ g.dependentsOf a) ∧
      (∀ a ∈ placed, ∀ u ∈ l, a ∈ g.dependentsOf u → u ∈ placed) ∧
      ∀ x ∈ l, x ∉ placed → ∃ u ∈ l, u ∉ placed ∧ x ∈ g.dependentsOf u := by
  obtain ⟨hsound, hready⟩ := @Schedule.rounds_spec g l hl
  have hfree := hsound.counts.free
  have hnodup := hsound.counts.nodup
  rw [hready, List.append_nil] at hfree hnodup
  refine ⟨_, rfl, hnodup, fun x hx => ((hfree x).mp hx).1, hsound.ordered,
    hsound.loopless, ?_, ?_⟩
  · intro a ha u hu hedge
    by_contra hnot
    exact ((hfree a).mp ha).2 (Schedule.mem_edgesLeft.mpr ⟨u, hu, hnot, hedge⟩)
  · intro x hx hnot
    by_contra hnone
    refine hnot ((hfree x).mpr ⟨hx, fun hmem => hnone ?_⟩)
    exact Schedule.mem_edgesLeft.mp hmem

/-- Sorting neither adds a cell nor loses one. -/
theorem Grid.mem_sortAffected (hl : l.Nodup) :
    x ∈ g.sortAffected l ↔ x ∈ l := by
  obtain ⟨placed, hsort, -, hsub, -⟩ := @sortAffected_spec g l hl
  rw [hsort, List.mem_append, List.mem_filter]
  by_cases hx : x ∈ placed
  · exact iff_of_true (Or.inl hx) (hsub hx)
  · simp [hx]

end Worksheet
