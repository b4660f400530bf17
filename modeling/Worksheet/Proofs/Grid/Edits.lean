/-
Accepted edits: made twice, and made at an index that counts from the end.

The second of two equal edits is evaluated on the graph that the first one left.
There the edges out of the cell are those of the content itself. None of them
leads back: a path of the new graph to the cell is one of the old graph
(`reach_source`), and the first edit has looked for those. So the second edit
sees the values that the first one saw, comes to the state that the cell has
already, and commits it without any change of edges.

# Counting from the end

A grid is asked for a cell with an index that may count from its end, and what
is committed stands at the index of the cell that is found. The walk that looks
for circles compares cells with the index as it was given. No cell has an index
below zero, so an edit there is never refused as circular
(`not_circular_of_edit_neg`). Whether it closes a circle is then up to its
content: none is closed if nothing it refers to leads to the cell
(`acyclic_rewire_iff`).
-/
import Worksheet.Proofs.Grid.Circular
import Worksheet.Proofs.Grid.History

namespace Worksheet

open Relation (ReflTransGen TransGen)

namespace Grid

variable {g h start : Grid} {s : Settings} {content : String} {new : Cell}
  {i x : Int} {steps : List (Settings × Step)}

-- =================================================================== twice

/-- Evaluated once more after its commit, an accepted content comes to the same
state. -/
theorem evaluate_after_edit (hg : g.Indexed)
    (hclosed : g.Closed Cell.dependencies) (hi : i ∈ g)
    (heval : g.evaluate i content s = .ok (.ok new)) :
    (g.rewire (g.cellAt i) new).evaluate i content s = .ok (.ok new) := by
  have hacc := evaluate_ok hclosed heval
  have hindex : new.index = i := hacc.index.trans (hg i hi)
  have hr := Rewired.of_rewire hi hindex
  have hback : ∀ k ∈ new.dependencies,
      ¬ ReflTransGen (g.rewire (g.cellAt i) new).Reads k i := fun k hk hreach =>
    hacc.noCycle k hk (reach_source (fun a ha b hstep => (hr.reads ha).mp hstep)
      hreach)
  have hvalue : ∀ k ∈ new.dependencies,
      ((g.rewire (g.cellAt i) new).cellAt k).value = (g.cellAt k).value :=
        fun k hk =>
    hr.value (hacc.mem k hk) fun heq => hacc.noCycle k hk (heq ▸ .refl)
  rw [evaluate_congr hclosed (closed_rewire hi hindex hclosed hacc.mem) hr.size
    hr.numCols
    hacc.records hacc.noCycle hback hvalue hi (by rw [hr.self, hacc.index])
    (by rw [hr.self, hacc.dependents]), heval]

/-- An edit that was accepted is accepted again, and changes nothing the second
time. The edges of the grid may run in circles, and be known to one of their two
cells only. -/
theorem edit_idempotent (hg : g.Indexed) (hclosed : g.Closed Cell.dependencies)
    (hi : i ∈ g) (hedit : g.edit i content s = .ok (.ok h)) :
    h.edit i content s = .ok (.ok h) := by
  obtain ⟨new, heval, hacc, rfl⟩ := accepted_of_edit hg hclosed hi hedit
  have hindex : new.index = i := hacc.index.trans (hg i hi)
  have hr := Rewired.of_rewire hi hindex
  have heval' := evaluate_after_edit hg hclosed hi heval
  have hi' := hr.mem.mpr hi
  have hclosed' := closed_rewire hi hindex hclosed hacc.mem
  have hg' : (g.rewire (g.cellAt i) new).Indexed := hg.rewire hi hindex
  have hcommit := (evaluate_ok hclosed' heval').commit hg' hclosed' hi'
  -- the cell that is committed stands there already
  have hsame : (g.rewire (g.cellAt i) new).rewire
    ((g.rewire (g.cellAt i) new).cellAt i) new = g.rewire (g.cellAt i) new := by
    have hcell := rewire_cellAt hi' (hg' i hi')
    rwa [hr.self] at hcell ⊢
  rw [hsame] at hcommit
  exact edit_of_commit hi' heval' hcommit

/-- The first two cells read each other, and neither knows it. The third one is
to lose a reader that does not read it, and the last one read itself before the
edit. -/
theorem edit_idempotent_one_sided :
    let g : Grid := ⟨#[⟨0, "=B0", none, [1], []⟩, ⟨1, "=A0", none, [0], []⟩,
      ⟨2, "3", some 3, [], [1]⟩, ⟨3, "", none, [3, 0], [3]⟩], 2⟩
    ∃ h, g.edit 3 "=A1*2" .standard = .ok (.ok h) ∧
      h.edit 3 "=A1*2" .standard = .ok (.ok h) := by
  intro g
  have haccepted : ((g.edit 3 "=A1*2" .standard).toOption.bind
    Except.toOption).map Grid.numCols = some 2 := by decide +kernel
  obtain ⟨h, hedit, -⟩ := exists_ok_of_map haccepted
  exact ⟨h, hedit, edit_idempotent (indexed_of_cells (by decide))
    (closed_of_cells (by decide)) (by decide) hedit⟩

-- ============================================================ from the end

/-- At an index that counts from the end, no edit is refused as circular. -/
theorem not_circular_of_edit_neg {err : EvalError}
    (hclosed : g.Closed Cell.dependencies) (hindex : i < 0)
    (hedit : g.edit i content s = .ok (.error ⟨x, .eval err⟩)) :
    err.kind ≠ .circularRef := by
  intro hkind
  obtain ⟨k, hk, -, hback⟩ := blame_of_edit hclosed hedit hkind
  exact absurd (hclosed.mem_of_reach hk hback).1 (Int.not_le.mpr hindex)

/-- A commit leaves no circle exactly if none of the new dependencies led to the
cell. -/
theorem acyclic_rewire_iff (hi : i ∈ g) (hindex : new.index = i)
    (hacyclic : ∀ a, ¬ TransGen g.Reads a a) :
    (∀ a, ¬ TransGen (g.rewire (g.cellAt i) new).Reads a a) ↔
      ∀ j ∈ new.dependencies, ¬ ReflTransGen g.Reads j i := by
  have hr := Rewired.of_rewire hi hindex
  have hout : ∀ j, (g.rewire (g.cellAt i) new).Reads i j ↔
      j ∈ new.dependencies := fun j => by
    rw [reads_rewire_iff hi hindex, if_pos rfl]
  constructor
  · intro hnone j hj hback
    exact hnone i (.head' ((hout j).mpr hj)
      (reach_source (fun a ha b hstep => (hr.reads ha).mpr hstep) hback))
  · intro hback
    exact acyclic_of_redirect (fun a ha b hstep => (hr.reads ha).mp hstep)
      hacyclic
      fun b hstep => hback b ((hout b).mp hstep)

namespace Coherent

/-- An edit at any index is a commit at the cell that the index denotes, of a
state that reads nothing that leads to the index itself. -/
theorem edit_any (hg : g.Coherent) (hedit : g.edit i content s = .ok (.ok h)) :
    ∃ k ∈ g, (i = k ∨ i = k - g.size) ∧ ∃ new, new.index = k ∧
      new.dependents = (g.cellAt k).dependents ∧
      (∀ j ∈ new.dependencies, j ∈ g) ∧
      (∀ j ∈ new.dependencies, ¬ ReflTransGen g.Reads j i) ∧
      h = g.rewire (g.cellAt k) new := by
  obtain ⟨new, hcell, heval, hcommit⟩ := edit_eq_ok hedit
  obtain ⟨k, hk, hat, hdenotes⟩ := exists_mem_of_cell hcell
  have hacc := evaluate_ok hg.closed_dependencies heval
  have hindex : new.index = k := by rw [hacc.index, ← hat, hg.indexed k hk]
  rw [← hat, hg.wired.commit hk hindex hacc.mem] at hcommit
  exact ⟨k, hk, hdenotes, new, hindex, by
    rw [hacc.dependents, hat], hacc.mem, hacc.noCycle,
    (Except.ok.inj hcommit).symm⟩

/-- A commit on a coherent grid passes the check unless the cell is to read
itself. -/
private theorem brokenEdges_rewire_iff (hg : g.Coherent) (hi : i ∈ g)
    (hindex : new.index = i)
    (hdependents : new.dependents = (g.cellAt i).dependents)
    (hmem : ∀ j ∈ new.dependencies, j ∈ g) :
    (g.rewire (g.cellAt i) new).brokenEdges = .ok [] ↔
      i ∉ new.dependencies := by
  obtain ⟨hwired, hself⟩ := hg.wired.rewire hi hindex hdependents hmem
  rw [hwired.brokenEdges_eq_nil_iff]
  constructor
  · intro hagree hin
    have hreads : (g.rewire (g.cellAt i) new).Reads i i :=
      (reads_rewire_iff hi hindex).mpr (by rwa [if_pos rfl])
    exact hg.not_feeds_self ((hself i).mp ((hagree i).mpr hreads))
  · intro hnot a
    rw [hself, reads_rewire_iff hi hindex]
    refine iff_of_false hg.not_feeds_self fun hstep => ?_
    split at hstep
    · next heq => exact hnot (heq ▸ hstep)
    · exact hg.acyclic a (.single hstep)

end Coherent

/-- An edit of a grid that a run has reached, at whatever index it is accepted,
is one of the cell that the index denotes. Counted from the start, it closes no
circle and passes the check. In general it closes no circle exactly if nothing
that the cell reads afterwards led to it before, and it passes the check exactly
if the cell does not read itself afterwards. -/
theorem acyclic_of_edit_iff {numCols numRows : Int}
    (hstart : Grid.empty numCols numRows = .ok start)
    (hsteps : ∀ step ∈ steps, step.2.index ∈ start)
    (hedit : (start.run steps).edit i content s = .ok (.ok h)) :
    ∃ k ∈ start.run steps, (i = k ∨ i = k - (start.run steps).size) ∧
      (0 ≤ i → (∀ a, ¬ TransGen h.Reads a a) ∧ h.brokenEdges = .ok []) ∧
      ((∀ a, ¬ TransGen h.Reads a a) ↔
        ∀ j ∈ (h.cellAt k).dependencies,
          ¬ ReflTransGen (start.run steps).Reads j k) ∧
      (h.brokenEdges = .ok [] ↔ k ∉ (h.cellAt k).dependencies) := by
  have hg : (start.run steps).Coherent :=
    ((Coherent.of_empty hstart).run hsteps).1
  obtain ⟨k, hk, hdenotes, new, hindex, hdependents, hmem, hback, rfl⟩ :=
    hg.edit_any hedit
  have hself := (Rewired.of_rewire hk hindex).self
  have hacyclic := acyclic_rewire_iff hk hindex hg.acyclic
  have hbroken := hg.brokenEdges_rewire_iff hk hindex hdependents hmem
  refine ⟨k, hk, hdenotes, fun hnonneg => ?_, by rw [hself]; exact hacyclic,
    by rw [hself]; exact hbroken⟩
  -- counted from the start, the index is that of the cell
  have heq : i = k := hdenotes.resolve_right fun heq => by
    have := hk.2
    omega
  subst heq
  exact ⟨hacyclic.mpr hback, hbroken.mpr fun hin => hback i hin .refl⟩

/-- The last cell, counted from the end, is to read the first one. -/
theorem acyclic_of_edit_iff_last :
    let g := twoCells.run [(.standard, .edit 0 "5")]
    ∃ h, g.edit (-1) "=A0" .standard = .ok (.ok h) ∧
      ∃ k ∈ g, (-1 = k ∨ -1 = k - (g.size : Int)) ∧
        (0 ≤ (-1 : Int) → (∀ a, ¬ TransGen h.Reads a a) ∧
          h.brokenEdges = .ok []) ∧ ((∀ a, ¬ TransGen h.Reads a a) ↔
          ∀ j ∈ (h.cellAt k).dependencies, ¬ ReflTransGen g.Reads j k) ∧
        (h.brokenEdges = .ok [] ↔ k ∉ (h.cellAt k).dependencies) := by
  intro g
  have haccepted : ((g.edit (-1) "=A0" .standard).toOption.bind
    Except.toOption).map Grid.numCols = some 2 := by decide +kernel
  obtain ⟨h, hedit, -⟩ := exists_ok_of_map haccepted
  exact ⟨h, hedit, acyclic_of_edit_iff empty_twoCells (by decide) hedit⟩

/-- The last cell, counted from the end, is to read itself, and may. -/
theorem circle_of_edit_last :
    Grid.empty 2 1 = .ok twoCells ∧
      ∃ h, (twoCells.run [(.standard, .edit 1 "5")]).edit (-1) "=B0" .standard =
        .ok (.ok h) ∧ TransGen h.Reads 1 1 ∧ h.brokenEdges = .ok [(1, 1)] := by
  have hedit : (((twoCells.run [(.standard, .edit 1 "5")]).edit (-1) "=B0"
      .standard).toOption.bind Except.toOption).map
      (fun h => (decide (1 ∈ h), (h.cellAt 1).dependencies, h.brokenEdges)) =
      some (true, [1], .ok [(1, 1)]) := by decide +kernel
  obtain ⟨h, hedit, hresult⟩ := exists_ok_of_map hedit
  obtain ⟨hmem, hresult⟩ := Prod.mk.inj hresult
  obtain ⟨hdeps, hbroken⟩ := Prod.mk.inj hresult
  have hreads : h.Reads 1 1 := reads_iff.mpr ⟨of_decide_eq_true hmem, by
    rw [hdeps]; simp⟩
  exact ⟨empty_twoCells, h, hedit, .single hreads, hbroken⟩

end Grid

end Worksheet
