/-
Sessions: a sheet from its first edit on.

A sheet propagates every edit that it accepts before it takes the next one,
so no cell is ever pending between two of them. From an empty grid on all
cells are settled after every edit, whether the edit was accepted, refused
or not possible at all (`Sheet.Current`).

A grid of which all cells are up to date is determined by its contents. Two
sessions that end with the same contents therefore end with the same values
and the same edges, however they got there.
-/
import Worksheet.Proofs.Grid.Settled
import Worksheet.Sheet

namespace Worksheet

open Grid

-- =============================================================== sessions

/-- What can be asked of a sheet: to carry out one edit, or several. -/
inductive Command where
  | edit (target : Target) (content : String)
  | load (contents : List (String × String))
deriving Repr

namespace Sheet

variable {s t : Sheet} {target : Target} {content : String} {i : Int}

/-- The sheet after a command, formulas being evaluated in the given way. An
edit that cannot be carried out leaves it as it is. -/
def performBy (formulas : Evaluator) (s : Sheet) : Command → Sheet
  | .edit target content =>
    match s.editBy formulas target content with
    | .ok result => s.after result
    | .error _ => s
  | .load contents => (s.loadBy formulas contents).1

/-- The sheet after some commands, formulas being evaluated in the given
way. -/
def sessionBy (formulas : Evaluator) (s : Sheet) (commands : List Command) :
    Sheet :=
  commands.foldl (performBy formulas) s

/-- The sheet after some commands. -/
def session (s : Sheet) (commands : List Command) : Sheet :=
  s.sessionBy evaluateFormula commands

/-- The index that a target resolves to is on the grid. -/
theorem mem_of_resolve (h : s.resolve target = .ok i) : i ∈ s.grid := by
  cases target with
  | name name => exact mem_of_indexOf h
  | index k =>
      unfold resolve at h
      dsimp only at h
      split at h
      · next hk =>
        cases h
        exact hk
      · cases h

/-- What is behind the answer to an edit. -/
theorem editBy_ok {formulas : Evaluator}
    {result : Except EditError Propagation}
    (h : s.editBy formulas target content = .ok result) :
    (∃ err, result = .error err) ∨ ∃ i edited p, i ∈ s.grid ∧
      s.grid.editBy formulas i content s.settings = .ok (.ok edited) ∧
      edited.propagateBy formulas i s.settings = .ok p ∧ result = .ok p := by
  unfold editBy at h
  obtain ⟨i, hresolve, h⟩ := bind_ok h
  obtain ⟨answer, hgrid, h⟩ := bind_ok h
  cases answer with
  | error err =>
      cases h
      exact Or.inl ⟨err, rfl⟩
  | ok edited =>
      obtain ⟨p, hprop, h⟩ := bind_ok h
      cases h
      exact Or.inr ⟨i, edited, p, mem_of_resolve hresolve, hgrid, hprop, rfl⟩

theorem edit_ok {result : Except EditError Propagation}
    (h : s.edit target content = .ok result) :
    (∃ err, result = .error err) ∨ ∃ i edited p, i ∈ s.grid ∧
      s.grid.edit i content s.settings = .ok (.ok edited) ∧
      edited.propagate i s.settings = .ok p ∧ result = .ok p :=
  editBy_ok h

section

variable {P : Sheet → Prop} {formulas : Evaluator}
  (hstep : ∀ {t : Sheet} {target content result}, P t →
    t.editBy formulas target content = .ok result → P (t.after result))

include hstep

/-- What all edits that are answered keep, a command keeps. -/
theorem performBy_of_edit {command : Command} (hs : P s) :
    P (s.performBy formulas command) := by
  cases command with
  | edit target content =>
      unfold performBy
      dsimp only
      rcases hedit : s.editBy formulas target content with f | result
      · exact hs
      · exact hstep hs hedit
  | load contents =>
      unfold performBy
      dsimp only
      induction contents generalizing s with
      | nil => exact hs
      | cons pair rest ih =>
          obtain ⟨name, content⟩ := pair
          unfold loadBy
          rcases hedit : s.editBy formulas (.name name) content with f | result
          · exact hs
          · exact ih (hstep hs hedit)

/-- So does a session. -/
theorem sessionBy_of_edit {commands : List Command} (hs : P s) :
    P (s.sessionBy formulas commands) := by
  induction commands generalizing s with
  | nil => exact hs
  | cons command rest ih => exact ih (performBy_of_edit hstep hs)

end

-- ================================================================ current

/-- The edges of the sheet show its contents, and all its cells are up to
date. -/
structure Current (s : Sheet) : Prop where
  faithful : s.grid.Faithful s.settings
  upToDate : ∀ x ∈ s.grid, s.grid.UpToDate s.settings x

/-- The second sheet is current, has the settings of the first one, and the
same number of cells in as many columns. -/
structure Continues (s t : Sheet) : Prop where
  current : t.Current
  settings : t.settings = s.settings
  size : t.grid.size = s.grid.size
  numCols : t.grid.numCols = s.grid.numCols

namespace Current

theorem of_empty {settings : Settings} {g : Grid} {numCols numRows : Int}
    (hstart : Grid.empty numCols numRows = .ok g) :
    (Sheet.mk g settings).Current :=
  ⟨.of_empty hstart, fun _ hx => upToDate_empty hstart hx⟩

theorem continues_self (hs : s.Current) : s.Continues s := ⟨hs, rfl, rfl, rfl⟩

end Current

theorem Continues.trans {u : Sheet} (hst : s.Continues t)
    (htu : t.Continues u) :
    s.Continues u :=
  ⟨htu.current, htu.settings.trans hst.settings, htu.size.trans hst.size,
    htu.numCols.trans hst.numCols⟩

namespace Current

/-- An edit that is answered, accepted or refused, leaves the sheet current. -/
theorem after {result : Except EditError Propagation} (hs : s.Current)
    (hedit : s.edit target content = .ok result) :
    s.Continues (s.after result) := by
  rcases edit_ok hedit with ⟨err, rfl⟩ | ⟨i, edited, p, hi, hgrid, hprop, rfl⟩
  · exact hs.continues_self
  · -- only the edited cell is pending, and it is the root that is propagated
    obtain ⟨new, -, -, hr, hfaithful⟩ := hs.faithful.edit_ok hi hgrid
    have hbut : s.grid.UpToDateBut s.settings fun _ => False := fun x hx =>
      Or.inl (hs.upToDate x hx)
    obtain ⟨p', hprop', hvalues, hlast⟩ := hfaithful.upToDateBut_propagate
      (hs.faithful.upToDateBut_edit hbut hi hgrid) (hr.mem.mpr hi)
    cases hprop.symm.trans hprop'
    refine ⟨⟨hvalues.faithful hfaithful, fun x hx => ?_⟩, rfl,
      hvalues.size.trans hr.size, hvalues.numCols.trans hr.numCols⟩
    rcases hlast x hx with hup | ⟨r, ⟨hpending, hne⟩, -⟩
    · exact hup
    · exact absurd (hpending.resolve_left id) hne

/-- So does a session. -/
theorem session {commands : List Command} (hs : s.Current) :
    s.Continues (s.session commands) :=
  sessionBy_of_edit (P := s.Continues) (fun ht hedit => ht.trans
    (ht.current.after hedit)) hs.continues_self

end Current

theorem continues_of_empty {g : Grid} {numCols numRows : Int}
    (hstart : Grid.empty numCols numRows = .ok g) (settings : Settings)
    (commands : List Command) :
    (Sheet.mk g settings).Continues ((Sheet.mk g settings).session commands) :=
  (Current.of_empty hstart).session

end Sheet

-- ================================================================ results

section

variable {g : Grid} {settings : Settings} {numCols numRows : Int}

/-- Recomputation misses nothing. After a run from an empty grid in which each
accepted edit is followed by a propagation from its cell, all cells are
settled; after every command to a sheet they are settled in any case. -/
theorem all_settled (hstart : Grid.empty numCols numRows = .ok g) :
    (∀ steps : List Step, (∀ step ∈ steps, step.index ∈ g) →
      g.EditsFollowed settings steps →
      ∀ i ∈ g.runUnder settings steps,
        (g.runUnder settings steps).Settled settings i) ∧
    ∀ commands : List Command,
      ∀ i ∈ ((Sheet.mk g settings).session commands).grid,
      ((Sheet.mk g settings).session commands).grid.Settled settings i := by
  constructor
  · intro steps hsteps hfollow i hi
    have hg : g.Faithful settings := .of_empty hstart
    have hbut : g.UpToDateBut settings fun _ => False := fun x hx =>
      Or.inl (upToDate_empty hstart hx)
    refine (hg.runUnder hsteps).1.settled hi ?_
    exact hg.upToDate_runUnder hsteps hbut nofun hfollow i hi
  · intro commands i hi
    have hlast := Sheet.continues_of_empty hstart settings commands
    have hfaithful := hlast.current.faithful
    have hup := hlast.current.upToDate i hi
    rw [hlast.settings] at hfaithful hup
    exact hfaithful.settled hi hup

/-- The third edit is refused: the second cell cannot read itself. -/
theorem all_settled_two_cells :
    (let last := twoCells.runUnder .standard [.edit 0 "5", .edit 1 "=A0+1",
      .edit 1 "=B0", .edit 0 "7", .propagate 1, .propagate 0]
      ∀ i ∈ last, last.Settled .standard i) ∧
    (let last := (Sheet.mk twoCells .standard).session
        [.load [("A0", "5"), ("B0", "=A0+1")], .edit (.index 0) "=B0"]
      ∀ i ∈ last.grid, last.grid.Settled .standard i) := by
  refine ⟨(all_settled empty_twoCells).1 _ (by decide) ?_,
    (all_settled empty_twoCells).2 _⟩
  exact .edit (by decide) (.edit (by decide)
    (.edit (by decide) (.edit (by decide) (.propagate (.propagate .nil)))))

/-- The history of a sheet leaves no trace. Two sessions that begin with the
same empty grid and the same settings and end with the same contents end with
the same values and the same dependencies, and with the same dependents up to
order. -/
theorem session_unique (hstart : Grid.empty numCols numRows = .ok g)
    {commands commands' : List Command}
    (hcontent : ∀ i ∈ g,
      (((Sheet.mk g settings).session commands).grid.cellAt i).content =
        (((Sheet.mk g settings).session commands').grid.cellAt i).content) :
    ∀ i ∈ g,
      (((Sheet.mk g settings).session commands).grid.cellAt i).value =
        (((Sheet.mk g settings).session commands').grid.cellAt i).value ∧
      (((Sheet.mk g settings).session commands).grid.cellAt i).dependencies =
        (((Sheet.mk g settings).session commands').grid.cellAt i).dependencies ∧
      (((Sheet.mk g settings).session commands).grid.cellAt i).dependents.Perm
        (((Sheet.mk g settings).session commands').grid.cellAt
          i).dependents := by
  have hs := Sheet.continues_of_empty hstart settings commands
  have ht := Sheet.continues_of_empty hstart settings commands'
  have hmem : ∀ i, i ∈ ((Sheet.mk g settings).session commands').grid ↔
      i ∈ g := fun _ =>
    mem_congr ht.size
  have hfaithful := hs.current.faithful
  have hfaithful' := ht.current.faithful
  have hup := hs.current.upToDate
  have hup' := ht.current.upToDate
  rw [hs.settings] at hfaithful hup
  rw [ht.settings] at hfaithful' hup'
  intro i hi
  exact hfaithful'.unique hfaithful (hs.size.trans ht.size.symm)
    (hs.numCols.trans ht.numCols.symm) (fun x hx => hcontent x ((hmem x).mp hx))
      hup' hup i ((hmem i).mpr hi)

/-- The second session puts the edge the other way round first, and its last
edit is refused. -/
theorem session_unique_two_cells :
    let direct := (Sheet.mk twoCells .standard).session
      [.load [("A0", "5"), ("B0", "=A0+1")]]
    let detour := (Sheet.mk twoCells .standard).session [.edit (.name "B0") "3",
      .edit (.name "A0") "=B0", .edit (.name "A0") "5",
      .edit (.name "B0") "=A0+1", .edit (.index 0) "=B0"]
    ∀ i ∈ twoCells, (direct.grid.cellAt i).value =
      (detour.grid.cellAt i).value ∧ (direct.grid.cellAt i).dependencies =
        (detour.grid.cellAt i).dependencies ∧
      (direct.grid.cellAt i).dependents.Perm
        (detour.grid.cellAt i).dependents := by
  refine session_unique empty_twoCells fun i hi => ?_
  have hcases : i = 0 ∨ i = 1 := by
    have hlower : 0 ≤ i := hi.1
    have hupper : i < 2 := hi.2
    omega
  rcases hcases with rfl | rfl <;> decide +kernel

end

end Worksheet
