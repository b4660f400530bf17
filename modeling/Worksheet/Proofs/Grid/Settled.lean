/-
Settled cells: evaluating the content again would change nothing.

An edit leaves cells behind that depend on the edited one, and a propagation
catches up with those that depend on its root. What holds in between is
that a cell is up to date unless it depends on a pending one: a cell with an
accepted edit that no propagation has followed (`UpToDateBut`).

# Why edges may change in between

An edit redirects the edges of one cell, and a cell may have waited for a
pending one along them. Its path to the pending cell then runs through the
edited cell, so it depends on that one at least, and the edited cell is
pending from now on. Its own value is the one that was just evaluated, on
inputs that may be out of date themselves; but it is the value that its
content has at present, and that is what being up to date means.

# Why the values are determined

Two faithful grids with the same contents have the same dependencies. If
all their cells are up to date they also have the same values, by induction
along the dependencies (`Faithful.unique`).
-/
import Worksheet.Proofs.Grid.History

namespace Worksheet

open Relation (ReflTransGen TransGen)

namespace Grid

variable {g h : Grid} {s : Settings} {i root x : Int} {pending : Int → Prop}
  {steps : List Step}

-- ================================================================ settled

/-- Evaluating the content of the cell gives the very cell that is stored, or
it fails and the cell has no value. -/
def Settled (g : Grid) (s : Settings) (i : Int) : Prop :=
  ∃ c, g.cell i = .ok c ∧ (g.evaluate i c.content s = .ok (.ok c) ∨
    (∃ err, g.evaluate i c.content s = .ok (.error err)) ∧ c.value = none)

/-- On a faithful grid only the value can be out of date. -/
theorem Faithful.settled (hg : g.Faithful s) (hi : i ∈ g)
    (hup : g.UpToDate s i) :
    g.Settled s i := by
  refine ⟨_, cell_of_mem hi, ?_⟩
  rcases hg.evaluate hi with heval | ⟨⟨err, heval, -⟩, hworth⟩
  · left
    rw [heval, ← hup]
  · right
    exact ⟨⟨err, heval⟩, hup.trans hworth⟩

-- ================================================================ pending

/-- Every cell is up to date unless it depends on a pending one. -/
def UpToDateBut (g : Grid) (s : Settings) (pending : Int → Prop) : Prop :=
  ∀ x ∈ g, g.UpToDate s x ∨ ∃ r, pending r ∧ TransGen g.Reads x r

private theorem constant_empty : s.constant "" = none := by
  unfold Settings.constant
  split
  · decide
  · rfl

theorem upToDate_empty {numCols numRows : Int}
    (hstart : Grid.empty numCols numRows = .ok g)
    (hx : x ∈ g) : g.UpToDate s x := by
  have heval : g.evaluate x "" s = _ := evaluate_constant hx body?_empty
  rw [constant_empty] at heval
  unfold UpToDate worth
  rw [cellAt_empty hstart hx]
  show none = g.outcome s x ""
  unfold outcome
  rw [heval]
  rfl

namespace Faithful

/-- The edited cell is up to date right after an accepted edit. -/
theorem upToDate_edit {content : String} (hg : g.Faithful s) (hi : i ∈ g)
    (hedit : g.edit i content s = .ok (.ok h)) : h.UpToDate s i := by
  obtain ⟨new, heval, hacc, hr, hh⟩ := hg.edit_ok hi hedit
  have hback := hh.noCycle (hr.mem.mpr hi)
  rw [hr.self] at hback
  have hworth : g.outcome s i content = new.value := by
    unfold outcome
    rw [heval]
  unfold UpToDate worth
  rw [hr.self, hacc.typed, ← hworth]
  refine (outcome_congr hg.closed_dependencies hh.closed_dependencies hr.size
    hr.numCols hacc.records hacc.noCycle hback (fun k hk => ?_) hi).symm
  refine hr.value (hacc.mem k hk) fun heq => hacc.noCycle k hk ?_
  rw [heq]

/-- After an accepted edit the edited cell is pending too. -/
theorem upToDateBut_edit {content : String} (hg : g.Faithful s)
    (hbut : g.UpToDateBut s pending) (hi : i ∈ g)
    (hedit : g.edit i content s = .ok (.ok h)) :
    h.UpToDateBut s fun r => pending r ∨ r = i := by
  have hself := hg.upToDate_edit hi hedit
  obtain ⟨new, -, -, hr, hh⟩ := hg.edit_ok hi hedit
  have hsource : ∀ a, a ≠ i → ∀ b, g.Reads a b → h.Reads a b :=
    fun a ha b hstep =>
    (hr.reads ha).mpr hstep
  intro x hx
  have hx' := hr.mem.mp hx
  by_cases hxi : x = i
  · rw [hxi]
    exact Or.inl hself
  · rcases hbut x hx' with hup | ⟨r, hpending, hpath⟩
    · by_cases hread : i ∈ (g.cellAt x).dependencies
      · refine Or.inr ⟨i, Or.inr rfl, .single (hsource x hxi i ?_)⟩
        exact reads_iff.mpr ⟨hx', hread⟩
      · refine Or.inl (hup.congr hg hh hr.size hr.numCols hx'
          (hr.content hx' hxi)
          (hr.dependencies hx' hxi) (hr.value hx' hxi) fun k hk => ?_)
        exact hr.value (hg.dependencies_mem x hx' k hk) fun heq =>
          hread (heq ▸ hk)
    · rcases transGen_or_source hsource hpath with hpath | ⟨hreach, -⟩
      · exact Or.inr ⟨r, Or.inl hpending, hpath⟩
      · -- the path runs through the edited cell, in the new grid as well
        refine Or.inr ⟨i, Or.inr rfl, ?_⟩
        have hreach' := reach_source hsource hreach
        rcases Relation.reflTransGen_iff_eq_or_transGen.mp hreach'
          with heq | hpath
        · exact absurd heq.symm hxi
        · exact hpath

/-- After a propagation its root is no longer pending. -/
theorem upToDateBut_propagate (hg : g.Faithful s)
    (hbut : g.UpToDateBut s pending) (hroot : root ∈ g) :
    ∃ p, g.propagate root s = .ok p ∧ Revalued g p.grid ∧
      p.grid.UpToDateBut s fun r => pending r ∧ r ≠ root := by
  obtain ⟨p, hprop, hr, hup, hsame⟩ := hg.propagate_spec hroot
  refine ⟨p, hprop, hr, fun x hx => ?_⟩
  have hx' := hr.mem.mp hx
  by_cases hpath : TransGen g.Reads x root
  · exact Or.inl (hup x hpath)
  · rcases hbut x hx' with hold | ⟨r, hpending, hpath'⟩
    · have hown := hsame x hx' hpath
      refine Or.inl (hold.congr hg (hr.faithful hg) hr.size hr.numCols hx'
        (by rw [hown]) (by rw [hown]) (by rw [hown]) fun k hk => ?_)
      have hstep : g.Reads x k := reads_iff.mpr ⟨hx', hk⟩
      rw [hsame k (hg.closed_dependencies x k hstep) fun hk' => hpath
        (.head hstep hk')]
    · refine Or.inr ⟨r, ⟨hpending, ?_⟩, ?_⟩
      · rintro rfl
        exact hpath hpath'
      · rwa [hr.reads]

end Faithful

-- =================================================================== runs

/-- Each accepted edit of a run is followed by a propagation from its cell. -/
def EditsFollowed (g : Grid) (s : Settings) (steps : List Step) : Prop :=
  ∀ before i content after edited, steps = before ++ .edit i content :: after →
    (g.runUnder s before).edit i content s = .ok (.ok edited) →
    .propagate i ∈ after

namespace EditsFollowed

theorem nil : g.EditsFollowed s [] := by
  intro before i content after edited hsplit
  cases before <;> cases hsplit

theorem edit {content : String} (hlater : .propagate i ∈ steps)
    (hrest : (g.perform s (.edit i content)).EditsFollowed s steps) :
    g.EditsFollowed s (.edit i content :: steps) := by
  intro before k content' after edited hsplit hedit
  cases before with
  | nil =>
      cases hsplit
      exact hlater
  | cons step before =>
      cases hsplit
      exact hrest before k content' after edited rfl hedit

theorem propagate
    (hrest : (g.perform s (.propagate root)).EditsFollowed s steps) :
    g.EditsFollowed s (.propagate root :: steps) := by
  intro before i content after edited hsplit hedit
  cases before with
  | nil => cases hsplit
  | cons step before =>
      cases hsplit
      exact hrest before i content after edited rfl hedit

theorem tail {step : Step} (hfollow : g.EditsFollowed s (step :: steps)) :
    (g.perform s step).EditsFollowed s steps := by
  intro before i content after edited hsplit hedit
  refine hfollow (step :: before) i content after edited ?_ hedit
  rw [hsplit]
  rfl

end EditsFollowed

namespace Faithful

/-- A run after which no cell is pending leaves all cells up to date. -/
theorem upToDate_runUnder (hg : g.Faithful s)
    (hsteps : ∀ step ∈ steps, step.index ∈ g) (hbut : g.UpToDateBut s pending)
    (hpending : ∀ r, pending r → .propagate r ∈ steps)
    (hfollow : g.EditsFollowed s steps) :
    ∀ x ∈ g.runUnder s steps, (g.runUnder s steps).UpToDate s x := by
  induction steps generalizing g pending with
  | nil =>
      intro x hx
      rcases hbut x hx with hup | ⟨r, hr, -⟩
      · exact hup
      · cases hpending r hr
  | cons step steps ih =>
      obtain ⟨hmid, hsize, -⟩ := hg.perform (hsteps step List.mem_cons_self)
      have hrest : ∀ next ∈ steps, next.index ∈ g.perform s step :=
        fun next hnext =>
        (mem_congr hsize).mpr (hsteps next (List.mem_cons_of_mem _ hnext))
      have hlater : ∀ r, pending r → .propagate r ≠ step →
          .propagate r ∈ steps :=
        fun r hr hne => (List.mem_cons.mp (hpending r hr)).resolve_left hne
      have hindex := hsteps step List.mem_cons_self
      show ∀ x ∈ (g.perform s step).runUnder s steps, _
      cases step with
      | edit i content =>
          have hkept : ∀ r, pending r → .propagate r ∈ steps :=
            fun r hr => hlater r hr nofun
          rcases @perform_edit g s content i with ⟨edited, hedit, heq⟩ | heq
          · have hnew : .propagate i ∈ steps :=
              hfollow [] i content steps edited rfl hedit
            refine ih hmid hrest (heq.symm ▸ hg.upToDateBut_edit hbut
              hindex hedit) (fun r hr => ?_) hfollow.tail
            rcases hr with hr | rfl
            · exact hkept r hr
            · exact hnew
          · exact ih hmid hrest (heq.symm ▸ hbut) hkept hfollow.tail
      | propagate root =>
          obtain ⟨p, hprop, -, hbut'⟩ := hg.upToDateBut_propagate hbut hindex
          refine ih hmid hrest ((perform_propagate hprop).symm ▸ hbut')
            (fun r hr => ?_) hfollow.tail
          refine hlater r hr.1 fun heq => hr.2 ?_
          cases heq
          rfl

-- ============================================================= uniqueness

/-- Two faithful grids of one shape with the same contents have the same
edges. -/
theorem dependencies_unique (hg : g.Faithful s) (hh : h.Faithful s)
    (hsize : h.size = g.size) (hcols : h.numCols = g.numCols) (hx : x ∈ g)
    (hcontent : (h.cellAt x).content = (g.cellAt x).content) :
    (h.cellAt x).dependencies = (g.cellAt x).dependencies := by
  have hx' : x ∈ h := (mem_congr hsize).mpr hx
  have hrec := hg.records x hx
  have hrec' := (hh.records x hx').congr hsize.symm hcols.symm
  unfold Records at hrec hrec'
  rw [hcontent] at hrec'
  cases hbody : s.body? (g.cellAt x).content with
  | none =>
      rw [hbody] at hrec hrec'
      rw [hrec, hrec']
  | some formula =>
      rw [hbody] at hrec hrec'
      obtain ⟨tree, refs, hparse, -, hrefs, -, hdeps⟩ := hrec
      obtain ⟨tree', refs', hparse', -, hrefs', -, hdeps'⟩ := hrec'
      cases hparse.symm.trans hparse'
      cases hrefs.symm.trans hrefs'
      rw [hdeps, hdeps']

/-- The contents determine the edges, and where all cells are up to date the
values as well. -/
theorem unique (hg : g.Faithful s) (hh : h.Faithful s) (hsize : h.size = g.size)
    (hcols : h.numCols = g.numCols)
    (hcontent : ∀ x ∈ g, (h.cellAt x).content = (g.cellAt x).content)
    (hup : ∀ x ∈ g, g.UpToDate s x) (hup' : ∀ x ∈ h, h.UpToDate s x) :
    ∀ x ∈ g, (h.cellAt x).value = (g.cellAt x).value ∧
      (h.cellAt x).dependencies = (g.cellAt x).dependencies ∧
      (h.cellAt x).dependents.Perm (g.cellAt x).dependents := by
  have hmem : ∀ x, x ∈ h ↔ x ∈ g := fun _ => mem_congr hsize
  have hdeps : ∀ x ∈ g, (h.cellAt x).dependencies = (g.cellAt x).dependencies :=
    fun x hx =>
    hg.dependencies_unique hh hsize hcols hx (hcontent x hx)
  have hvalue : ∀ x ∈ g, (h.cellAt x).value = (g.cellAt x).value := by
    refine hg.induction fun x hx ih => ?_
    rw [hup x hx, hup' x ((hmem x).mpr hx)]
    refine hg.worth_congr hh hsize hcols hx (hcontent x hx) (hdeps x hx)
      fun k hk => ?_
    exact ih k (reads_iff.mpr ⟨hx, hk⟩)
  refine fun x hx => ⟨hvalue x hx, hdeps x hx, ?_⟩
  have hx' := (hmem x).mpr hx
  refine (List.perm_ext_iff_of_nodup (hh.dependents_nodup x hx')
    (hg.dependents_nodup x hx)).mpr
    fun y => ?_
  -- both lists hold the cells that read this one
  constructor
  · intro hy
    have hyh := hh.dependents_mem x hx' y hy
    have hyg := (hmem y).mp hyh
    rw [hg.agree x hx y hyg, ← hdeps y hyg]
    exact (hh.agree x hx' y hyh).mp hy
  · intro hy
    have hyg := hg.dependents_mem x hx y hy
    have hyh := (hmem y).mpr hyg
    rw [hh.agree x hx' y hyh, hdeps y hyg]
    exact (hg.agree x hx y hyg).mp hy

end Faithful

end Grid

end Worksheet
