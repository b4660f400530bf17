/-
Propagating from several cells, one after another.

After some edits several cells may be pending, and a pass from one of them
computes cells from inputs that are out of date because of another. What
matters is the set of roots alone: once the last pass is over, every cell
that depends on one of the roots is up to date, and no other cell has
changed (`CaughtUp`).

A pass does not spoil what an earlier one has done. Where it changes
something that a cell reads, the cell depends on its root as well, and is
computed again (`CaughtUp.append`).

There is only one grid like that (`CaughtUp.unique`). The cells outside are
those of the grid at the start, and the values of the others follow from
theirs along the edges, which no pass changes.
-/
import Worksheet.Proofs.Grid.Settled

namespace Worksheet

open Relation (TransGen)

namespace Grid

variable {g mid last last' : Grid} {s : Settings} {x : Int}
  {roots roots' : List Int} {steps : List Step}

/-- The grid after propagations from several roots, if none of them faults. -/
def propagateAll (g : Grid) (s : Settings) (roots : List Int) :
    Except Fault Grid :=
  roots.foldlM (fun g root => (g.propagate root s).map (·.grid)) g

/-- The cell depends on one of the roots. -/
def DependsOn (g : Grid) (roots : List Int) (x : Int) : Prop :=
  ∃ root ∈ roots, TransGen g.Reads x root

/-- What depends on the roots is up to date, and all else is as it was. -/
structure CaughtUp (s : Settings) (g : Grid) (roots : List Int) (last : Grid) :
    Prop where
  revalued : Revalued g last
  upToDate : ∀ x, g.DependsOn roots x → last.UpToDate s x
  same : ∀ x ∈ g, ¬ g.DependsOn roots x → last.cellAt x = g.cellAt x

private theorem DependsOn.mem (hx : g.DependsOn roots x) : x ∈ g := by
  obtain ⟨root, -, hpath⟩ := hx
  exact mem_of_path hpath

private theorem DependsOn.of_reads {k : Int} (hstep : g.Reads x k)
    (hk : g.DependsOn roots k) :
    g.DependsOn roots x := by
  obtain ⟨root, hroot, hpath⟩ := hk
  exact ⟨root, hroot, .head hstep hpath⟩

private theorem dependsOn_append :
    g.DependsOn (roots ++ roots') x ↔
      g.DependsOn roots x ∨ g.DependsOn roots' x := by
  simp only [DependsOn, List.mem_append, or_and_right, exists_or]

private theorem dependsOn_congr (hmem : ∀ root, root ∈ roots ↔ root ∈ roots') :
    g.DependsOn roots x ↔ g.DependsOn roots' x := by
  simp only [DependsOn, hmem]

private theorem Revalued.dependsOn (hr : Revalued g mid) :
    mid.DependsOn roots x ↔ g.DependsOn roots x := by
  rw [DependsOn, hr.reads]
  rfl

-- ================================================================= passes

namespace CaughtUp

theorem nil : CaughtUp s g [] g :=
  ⟨.refl, fun _ ⟨_, hroot, _⟩ => (List.not_mem_nil hroot).elim,
    fun _ _ _ => rfl⟩

/-- A propagation catches up with its root. -/
theorem of_propagate {root : Int} (hg : g.Faithful s) (hroot : root ∈ g) :
    ∃ p, g.propagate root s = .ok p ∧ CaughtUp s g [root] p.grid := by
  obtain ⟨p, hprop, hr, hup, hsame⟩ := hg.propagate_spec hroot
  refine ⟨p, hprop, hr, fun x hx => ?_, fun x hx hnot => ?_⟩
  · obtain ⟨r, hr, hpath⟩ := hx
    rw [List.mem_singleton.mp hr] at hpath
    exact hup x hpath
  · exact hsame x hx fun hpath => hnot ⟨root, List.mem_cons_self, hpath⟩

/-- Passes that go on from a grid that has caught up with some roots catch up
with these and their own. -/
theorem append (hg : g.Faithful s) (h : CaughtUp s g roots mid)
    (h' : CaughtUp s mid roots' last) :
    CaughtUp s g (roots ++ roots') last := by
  have hmid := h.revalued.faithful hg
  have hr := h.revalued.trans h'.revalued
  refine ⟨hr, fun x hx => ?_, fun x hx hnot => ?_⟩
  · by_cases hlater : g.DependsOn roots' x
    · exact h'.upToDate x (h.revalued.dependsOn.mpr hlater)
    · -- the later passes change neither the cell nor anything that it reads
      have hearlier := (dependsOn_append.mp hx).resolve_right hlater
      have hmem := h.revalued.mem.mpr hearlier.mem
      have hsame : ∀ k ∈ mid, ¬ g.DependsOn roots' k →
          last.cellAt k = mid.cellAt k :=
        fun k hk hnot => h'.same k hk fun hdep =>
          hnot (h.revalued.dependsOn.mp hdep)
      have hown := hsame x hmem hlater
      refine (h.upToDate x hearlier).congr hmid (hr.faithful hg)
        h'.revalued.size
        h'.revalued.numCols hmem (by rw [hown]) (by rw [hown]) (by rw [hown])
          fun k hk => ?_
      have hstep : mid.Reads x k := reads_iff.mpr ⟨hmem, hk⟩
      rw [hsame k (hmid.closed_dependencies x k hstep) fun hdep =>
        hlater (hdep.of_reads (h.revalued.reads ▸ hstep))]
  · rw [dependsOn_append, not_or] at hnot
    rw [h'.same x (h.revalued.mem.mpr hx) fun hdep => hnot.2
      (h.revalued.dependsOn.mp hdep), h.same x hx hnot.1]

/-- A grid catches up with the same roots in one way only. -/
theorem unique (hg : g.Faithful s) (h : CaughtUp s g roots last)
    (h' : CaughtUp s g roots' last')
    (hmem : ∀ root, root ∈ roots ↔ root ∈ roots') : last' = last := by
  have hr := h.revalued
  have hr' := h'.revalued
  have hvalue : ∀ x ∈ g, (last'.cellAt x).value = (last.cellAt x).value := by
    refine hg.induction fun x hx ih => ?_
    by_cases hdep : g.DependsOn roots x
    · rw [h.upToDate x hdep, h'.upToDate x ((dependsOn_congr hmem).mp hdep)]
      refine (hr.faithful hg).worth_congr (hr'.faithful hg)
        (hr'.size.trans hr.size.symm)
        (hr'.numCols.trans hr.numCols.symm) (hr.mem.mpr hx)
        ((hr'.content hx).trans (hr.content hx).symm)
        ((hr'.dependencies hx).trans (hr.dependencies hx).symm) fun k hk => ?_
      rw [hr.dependencies hx] at hk
      exact ih k (reads_iff.mpr ⟨hx, hk⟩)
    · rw [h.same x hx hdep, h'.same x hx fun hdep' => hdep
        ((dependsOn_congr hmem).mpr hdep')]
  refine ext_cellAt (hr'.size.trans hr.size.symm)
    (hr'.numCols.trans hr.numCols.symm)
    fun x hx => ?_
  have hx' := hr.mem.mp hx
  rw [hr'.cell x hx', hvalue x hx', ← hr.cell x hx']

end CaughtUp

/-- Propagations from cells of a faithful grid do not fault, and catch up with
all of them. -/
theorem propagateAll_spec (hg : g.Faithful s)
    (hroots : ∀ root ∈ roots, root ∈ g) :
    ∃ last, g.propagateAll s roots = .ok last ∧ CaughtUp s g roots last := by
  induction roots generalizing g with
  | nil => exact ⟨g, rfl, .nil⟩
  | cons root roots ih =>
      obtain ⟨p, hprop, hfirst⟩ := CaughtUp.of_propagate hg
        (hroots root List.mem_cons_self)
      obtain ⟨last, hall, hrest⟩ := ih (hfirst.revalued.faithful hg) fun r hr =>
        hfirst.revalued.mem.mpr (hroots r (List.mem_cons_of_mem _ hr))
      refine ⟨last, ?_, hfirst.append hg hrest⟩
      unfold propagateAll at hall ⊢
      rw [List.foldlM_cons, hprop]
      exact hall

/-- After any run from an empty grid, propagations from two lists of the same
roots all succeed and end in the same grid, whatever the order and however often
a root occurs. -/
theorem propagateAll_congr {numCols numRows : Int}
    (hstart : Grid.empty numCols numRows = .ok g)
    (hsteps : ∀ step ∈ steps, step.index ∈ g)
    (hroots : ∀ root ∈ roots, root ∈ g)
    (hmem : ∀ root, root ∈ roots ↔ root ∈ roots') :
    ∃ last, (g.runUnder s steps).propagateAll s roots = .ok last ∧
      (g.runUnder s steps).propagateAll s roots' = .ok last := by
  obtain ⟨hrun, hsize, -⟩ := (Faithful.of_empty hstart).runUnder hsteps
  have hon : ∀ root ∈ roots, root ∈ g.runUnder s steps := fun root hroot =>
    (mem_congr hsize).mpr (hroots root hroot)
  obtain ⟨last, hall, hcaught⟩ := propagateAll_spec hrun hon
  obtain ⟨last', hall', hcaught'⟩ := propagateAll_spec hrun fun root hroot =>
    hon root ((hmem root).mpr hroot)
  refine ⟨last, hall, ?_⟩
  rw [hall', hcaught.unique hrun hcaught' hmem]

/-- The second cell waits for the first, in which the last edit is not yet
followed. -/
theorem propagateAll_congr_two_cells :
    let g := twoCells.runUnder .standard [.edit 0 "5", .edit 1 "=A0+1",
      .edit 0 "text"]
    ∃ last, g.propagateAll .standard [1, 0] = .ok last ∧
      g.propagateAll .standard [0, 1, 0] = .ok last :=
  propagateAll_congr empty_twoCells (by decide) (by decide) (by simp [or_comm])

end Grid

end Worksheet
