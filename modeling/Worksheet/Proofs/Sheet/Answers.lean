/-
The answers of a sheet.

As long as no formula is too deep for the stack, every edit of a cell of the
sheet is answered: with a propagation, or with the error that refuses it. On
a coherent grid all that an evaluation looks up is there, a formula that can
be read makes sense to its evaluation, and each result can be committed, an
error too (`Coherent.evaluate_total`, `Coherent.propagate_total`). And every
edit that is answered leaves the grid coherent (`Sheet.endures_after`).

The errors in an answer are those of the cells that an accepted edit has
left without a number. They can be checked on the grid of the answer: there
each of these cells still fails in the way that was told. What fails is
never the formula itself, for it was accepted once, and its references are
where they were.
-/
import Worksheet.Proofs.Grid.Faults
import Worksheet.Proofs.Grid.Report
import Worksheet.Proofs.Sheet.Session

namespace Worksheet

open Relation (TransGen)

-- =============================================================== settings

/-- A limit of length is not below zero, and the functions are the built-in ones
or were registered with them. -/
structure Settings.Proper (s : Settings) : Prop where
  limit : ∀ n, s.maxLength = some n → 0 ≤ n
  functions : s.functions = none ∨
    ∃ calls, s.functions = some (Registry.builtin.registerAll calls)

theorem Settings.Proper.capital {s : Settings} (hs : s.Proper) :
    s.registry.Capital := by
  unfold Settings.registry
  rcases hs.functions with hnone | ⟨calls, hcalls⟩
  · rw [hnone]
    exact .builtin
  · rw [hcalls]
    exact Registry.Capital.builtin.registerAll

-- ================================================================== grids

namespace Grid

variable {g : Grid} {s : Settings} {i root : Int} {p : Propagation}
  {order : List Int}

namespace Coherent

theorem evaluate_total (hg : g.Coherent) (hs : s.Proper) (hi : i ∈ g)
    (content : String) :
    ∃ result, g.evaluate i content s = .ok result := by
  rcases heval : g.evaluate i content s with f | result
  · obtain ⟨n, hn, hneg, -⟩ := (evaluate_known hs.capital hg.closed_dependencies
      hi).1 f heval
    have := hs.limit n hn
    omega
  · exact ⟨result, rfl⟩

/-- Cells can be computed again in any order, even if the pass changes their
edges. -/
theorem foldlM_total (hp : p.grid.Coherent) (hs : s.Proper)
    (hon : ∀ i ∈ order, i ∈ p.grid) :
    ∃ p', order.foldlM (Propagation.recompute s) p = .ok p' := by
  induction order generalizing p with
  | nil => exact ⟨p, rfl⟩
  | cons i order ih =>
      have hi := hon i List.mem_cons_self
      obtain ⟨result, heval⟩ := hp.evaluate_total hs hi
        (p.grid.cellAt i).content
      obtain ⟨hstep, hmid⟩ := hp.recompute_of_evaluate hi heval
      rw [List.foldlM_cons, hstep]
      exact ih hmid fun k hk => mem_rewire.mpr
        (hon k (List.mem_cons_of_mem _ hk))

theorem propagate_total (hg : g.Coherent) (hs : s.Proper) (hroot : root ∈ g) :
    ∃ p, g.propagate root s = .ok p := by
  obtain ⟨order, heq, -, hmem, -⟩ := hg.order_spec hroot
  rw [propagate_of_order heq]
  exact foldlM_total (p := ⟨g, order, [], []⟩) hg hs fun i hi =>
    mem_of_path ((hmem i).mp hi)

end Coherent

-- ================================================================= edits

/-- The second grid is coherent and has the shape of the first. -/
structure Endures (g h : Grid) : Prop where
  coherent : h.Coherent
  size : h.size = g.size
  numCols : h.numCols = g.numCols

theorem Endures.trans {h k : Grid} (hgh : Endures g h)
    (hhk : Endures h k) : Endures g k :=
  ⟨hhk.coherent, hhk.size.trans hgh.size, hhk.numCols.trans hgh.numCols⟩

end Grid

open Grid

namespace Sheet

variable {s : Sheet} {target : Target} {content : String}

/-- An edit that is answered keeps the grid coherent and its shape as it is. -/
theorem endures_after {result : Except EditError Propagation}
    (hg : s.grid.Coherent) (hedit : s.edit target content = .ok result) :
    Endures s.grid (s.after result).grid := by
  rcases edit_ok hedit with ⟨err, rfl⟩ | ⟨i, edited, p, hi, hgrid, hprop, rfl⟩
  · exact ⟨hg, rfl, rfl⟩
  · obtain ⟨new, -, hacc, rfl⟩ := hg.edit_ok hi hgrid
    obtain ⟨hcoherent, hsize, hcols⟩ :=
      (hg.commit_accepted hi hacc).2.propagate_ok (mem_rewire.mpr hi) hprop
    exact ⟨hcoherent, hsize.trans size_rewire, hcols.trans numCols_rewire⟩

end Sheet

-- ================================================================ targets

/-- The target is the name of a cell of the grid, or the index of one. -/
def Target.On (g : Grid) : Target → Prop
  | .name text => ∃ i, g.indexOf text = .ok i
  | .index i => i ∈ g

theorem Target.On.congr {g h : Grid} {target : Target} (ht : target.On g)
    (hsize : h.size = g.size)
    (hcols : h.numCols = g.numCols) : target.On h := by
  cases target with
  | name text =>
      obtain ⟨i, hname⟩ := ht
      exact ⟨i, (indexOf_congr hsize hcols).trans hname⟩
  | index i => exact (mem_congr hsize).mpr ht

namespace Sheet

variable {s : Sheet} {target : Target} {content : String}

theorem resolve_of_on (ht : target.On s.grid) :
    ∃ i, s.resolve target = .ok i := by
  cases target with
  | name text => exact ht
  | index i => exact ⟨i, if_pos ht⟩

/-- On a coherent grid an edit is answered with a propagation, if the content
has a state to offer. -/
theorem edit_of_evaluate {i : Int} {new : Cell} (hg : s.grid.Coherent)
    (hs : s.settings.Proper) (hresolve : s.resolve target = .ok i)
    (heval : s.grid.evaluate i content s.settings = .ok (.ok new)) :
    ∃ p, s.edit target content = .ok (.ok p) := by
  have hi := mem_of_resolve hresolve
  obtain ⟨hcommit, hedited⟩ :=
    hg.commit_accepted hi (evaluate_ok hg.closed_dependencies heval)
  obtain ⟨p, hprop⟩ := hedited.propagate_total hs (mem_rewire.mpr hi)
  refine ⟨p, ?_⟩
  unfold Sheet.edit editBy
  rw [hresolve]
  show (s.grid.edit i content s.settings >>= _) = _
  rw [edit_of_commit hi heval hcommit]
  show (Grid.propagate _ i s.settings >>= _) = _
  rw [hprop]
  rfl

/-- On a coherent grid an edit of one of its cells is answered. -/
theorem edit_total (hg : s.grid.Coherent) (hs : s.settings.Proper)
    (ht : target.On s.grid) : ∃ result, s.edit target content = .ok result := by
  obtain ⟨i, hresolve⟩ := resolve_of_on ht
  obtain ⟨result, heval⟩ :=
    hg.evaluate_total hs (mem_of_resolve hresolve) content
  cases result with
  | ok new =>
      obtain ⟨p, hedit⟩ := edit_of_evaluate hg hs hresolve heval
      exact ⟨.ok p, hedit⟩
  | error err =>
      have hgrid : s.grid.edit i content s.settings =
          .ok (.error ⟨i, err⟩) := by
        show (s.grid.evaluate i content s.settings >>= _) = _
        rw [heval]
        rfl
      refine ⟨.error ⟨i, err⟩, ?_⟩
      unfold Sheet.edit editBy
      rw [hresolve]
      show (s.grid.edit i content s.settings >>= _) = _
      rw [hgrid]
      rfl

end Sheet

-- ================================================================ answers

section

variable {g : Grid} {settings : Settings} {target : Target} {content : String}
  {numCols numRows : Int} {commands : List Command}

/-- The errors that an accepted edit tells of are those of the cells that it
visited and left without a number, in the order of the visits. On the grid in
the answer each of these cells still fails just so: by a division by zero, a
cell that is no number, or a function that fails. -/
theorem errors_of_edit {p : Propagation}
    (hstart : Grid.empty numCols numRows = .ok g)
    (hedit : ((Sheet.mk g settings).session commands).edit target content =
      .ok (.ok p)) :
    (∀ i ∈ p.visited, i ∈ p.grid) ∧
    p.errors.map EditError.cell =
      p.visited.filter (fun i => (p.grid.cellAt i).value.isNone) ∧
    ∀ e ∈ p.errors,
      p.grid.evaluate e.cell (p.grid.cellAt e.cell).content settings =
        .ok (.error e.cause) ∧
      FailsByValues e.cause := by
  have hlast := Sheet.continues_of_empty hstart settings commands
  rcases Sheet.edit_ok hedit with ⟨err, hcase⟩ | ⟨root, edited, p', hi, hgrid,
    hprop, hcase⟩
  · cases hcase
  · cases hcase
    obtain ⟨new, -, -, hr, hedited⟩ := hlast.current.faithful.edit_ok hi hgrid
    have hroot := hr.mem.mpr hi
    rw [hlast.settings] at hedited hprop
    obtain ⟨p', hprop', hvalues, hup, -⟩ := hedited.propagate_spec hroot
    cases hprop.symm.trans hprop'
    obtain ⟨-, hvisited, hreports⟩ := hedited.propagate_reports hroot hprop
    have hfaithful := hvalues.faithful hedited
    have hon : ∀ i ∈ p.visited, i ∈ p.grid := fun i hi =>
      hvalues.mem.mpr (mem_of_path ((hvisited i).mp hi))
    have hupToDate : ∀ i ∈ p.visited, p.grid.UpToDate settings i := fun i hi =>
      hup i ((hvisited i).mp hi)
    -- a cell is visited because of something that it reads
    have hreads : ∀ i ∈ p.visited, (p.grid.cellAt i).dependencies ≠ [] :=
      fun i hi => by
      obtain ⟨k, hread, -⟩ := TransGen.head'_iff.mp ((hvisited i).mp hi)
      obtain ⟨hmem, hk⟩ := reads_iff.mp hread
      rw [hvalues.dependencies hmem]
      exact List.ne_nil_of_mem hk
    rw [hreports.errors]
    exact ⟨hon, hfaithful.cells_of_failures hon hupToDate hreads, fun e he =>
      hfaithful.cause_of_failure hon hupToDate hreads he⟩

/-- The second cell divides by the first one, and the third reads the second:
the first is set to zero. -/
theorem errors_of_edit_three_cells :
    let blank : Grid := ⟨#[.blank 0, .blank 1, .blank 2], 3⟩
    let sheet := (Sheet.mk blank .standard).session
      [.load [("A0", "5"), ("B0", "=1/A0"), ("C0", "=B0+A0")]]
    ∃ p, sheet.edit (.name "A0") "0" = .ok (.ok p) ∧ p.visited = [1, 2] ∧
      (∀ i ∈ p.visited, i ∈ p.grid) ∧
      p.errors.map EditError.cell =
        p.visited.filter (fun i => (p.grid.cellAt i).value.isNone) ∧
      ∀ e ∈ p.errors,
        p.grid.evaluate e.cell (p.grid.cellAt e.cell).content .standard =
          .ok (.error e.cause) ∧
        FailsByValues e.cause := by
  intro blank sheet
  have hstart : Grid.empty 3 1 = .ok blank := rfl
  have hvisited : ((sheet.edit (.name "A0") "0").toOption.bind
    Except.toOption).map Propagation.visited = some [1, 2] := by decide +kernel
  rcases hedit : sheet.edit (.name "A0") "0" with f | err | p
  · rw [hedit] at hvisited
    cases hvisited
  · rw [hedit] at hvisited
    cases hvisited
  · rw [hedit] at hvisited
    exact ⟨p, rfl, Option.some.inj hvisited, errors_of_edit hstart hedit⟩

end

end Worksheet
