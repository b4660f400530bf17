/-
What a propagation does on a faithful grid: it brings values up to date.

A cell is up to date when its value is what its content is worth at
present. On a faithful grid a stored content evaluates to the dependencies
that are stored with it, or fails; so a recomputation changes one value and
nothing else (`refresh`), and it never faults.

Each cell of the pass is recomputed after everything that it reads. It is up
to date from then on: none of the cells that follow is read by it, and it
does not read itself. In the end the cells that depend on the root are up
to date, and no other cell has changed (`Faithful.propagate_spec`).
-/
import Worksheet.Proofs.Grid.Runs

namespace Worksheet

open Relation (ReflTransGen TransGen)

namespace Grid

variable {g h k : Grid} {s : Settings} {i j root x : Int} {p : Propagation}
  {order : List Int}

-- ============================================================== revaluing

/-- Two grids that differ in the values of their cells only. -/
structure Revalued (g h : Grid) : Prop where
  size : h.size = g.size
  numCols : h.numCols = g.numCols
  cell : ∀ i ∈ g, h.cellAt i = { g.cellAt i with value := (h.cellAt i).value }

namespace Revalued

theorem refl : Revalued g g := ⟨rfl, rfl, fun _ _ => rfl⟩

/-- The two grids have the same cells. -/
theorem mem (hr : Revalued g h) : i ∈ h ↔ i ∈ g := mem_congr hr.size

/-- Values can change again and again. -/
theorem trans (hr : Revalued g h) (hr' : Revalued h k) : Revalued g k := by
  refine ⟨hr'.size.trans hr.size, hr'.numCols.trans hr.numCols, fun i hi => ?_⟩
  rw [hr'.cell i (hr.mem.mpr hi), hr.cell i hi]

/-- A cell keeps its index. -/
theorem index (hr : Revalued g h) (hi : i ∈ g) :
    (h.cellAt i).index = (g.cellAt i).index := by
  rw [hr.cell i hi]

/-- It keeps its content. -/
theorem content (hr : Revalued g h) (hi : i ∈ g) :
    (h.cellAt i).content = (g.cellAt i).content := by
  rw [hr.cell i hi]

/-- It keeps what it reads. -/
theorem dependencies (hr : Revalued g h) (hi : i ∈ g) :
    (h.cellAt i).dependencies = (g.cellAt i).dependencies := by
  rw [hr.cell i hi]

private theorem dependents (hr : Revalued g h) (hi : i ∈ g) :
    (h.cellAt i).dependents = (g.cellAt i).dependents := by
  rw [hr.cell i hi]

/-- The same cells read the same cells. -/
theorem reads (hr : Revalued g h) : h.Reads = g.Reads := by
  funext i j
  refine propext ?_
  rw [reads_iff, reads_iff, hr.mem]
  refine and_congr_right fun hi => ?_
  rw [hr.dependencies hi]

/-- Being coherent is a matter of the edges, not of the values. -/
private theorem coherent (hr : Revalued g h) (hg : g.Coherent) :
    h.Coherent := by
  refine ⟨fun i hi => ?_, fun i hi j => ?_, fun i hi j => ?_, fun i hi => ?_,
    fun i hi => ?_, fun i hi j hj => ?_, ?_⟩
  · have hi' := hr.mem.mp hi
    rw [hr.index hi', hg.indexed i hi']
  · have hi' := hr.mem.mp hi
    rw [hr.dependencies hi', hr.mem]
    exact hg.dependencies_mem i hi' j
  · have hi' := hr.mem.mp hi
    rw [hr.dependents hi', hr.mem]
    exact hg.dependents_mem i hi' j
  · have hi' := hr.mem.mp hi
    rw [hr.dependencies hi']
    exact hg.dependencies_nodup i hi'
  · have hi' := hr.mem.mp hi
    rw [hr.dependents hi']
    exact hg.dependents_nodup i hi'
  · have hi' := hr.mem.mp hi
    have hj' := hr.mem.mp hj
    rw [hr.dependents hi', hr.dependencies hj']
    exact hg.agree i hi' j hj'
  · rw [hr.reads]
    exact hg.acyclic

/-- Nor are the values a part of being faithful. -/
theorem faithful (hr : Revalued g h) (hg : g.Faithful s) : h.Faithful s := by
  refine ⟨hr.coherent hg.toCoherent, fun i hi => ?_⟩
  have hi' := hr.mem.mp hi
  rw [hr.content hi', hr.dependencies hi']
  exact (hg.records i hi').congr hr.size hr.numCols

end Revalued

-- ============================================================= up to date

/-- The value of the cell is what its content is worth at present. -/
def UpToDate (g : Grid) (s : Settings) (i : Int) : Prop :=
  (g.cellAt i).value = g.worth s i

/-- A cell stays up to date while its content, its value and the values that
it reads stay. -/
theorem UpToDate.congr (hup : g.UpToDate s i) (hg : g.Faithful s)
    (hh : h.Faithful s) (hsize : h.size = g.size)
    (hcols : h.numCols = g.numCols) (hi : i ∈ g)
    (hcontent : (h.cellAt i).content = (g.cellAt i).content)
    (hdeps : (h.cellAt i).dependencies = (g.cellAt i).dependencies)
    (hown : (h.cellAt i).value = (g.cellAt i).value)
    (hvalue : ∀ k ∈ (g.cellAt i).dependencies,
      (h.cellAt k).value = (g.cellAt k).value) :
    h.UpToDate s i := by
  unfold UpToDate
  rw [hown, hup, hg.worth_congr hh hsize hcols hi hcontent hdeps hvalue]

-- ============================================================ refreshing

/-- The grid with another value in one cell. -/
def setValue (g : Grid) (i : Int) (v : Option Float) : Grid :=
  g.set { g.cellAt i with value := v }

section

variable {v : Option Float} (hg : g.Indexed) (hi : i ∈ g)

include hg hi

/-- The cell has the other value, and is otherwise as it was. -/
theorem cellAt_setValue_self :
    (g.setValue i v).cellAt i = { g.cellAt i with value := v } := by
  have hindex := hg i hi
  have hset := @cellAt_set_self g { g.cellAt i with value := v }
    (by rwa [hindex])
  rwa [hindex] at hset

/-- No other cell is touched. -/
theorem cellAt_setValue_ne (hx : x ∈ g) (hne : x ≠ i) :
    (g.setValue i v).cellAt x = g.cellAt x := by
  have hindex := hg i hi
  refine cellAt_set_ne ?_ hx ?_
  · show (g.cellAt i).index ∈ g
    rwa [hindex]
  · show x ≠ (g.cellAt i).index
    rwa [hindex]

/-- So only values differ. -/
theorem revalued_setValue : Revalued g (g.setValue i v) := by
  refine ⟨size_set, numCols_set, fun x hx => ?_⟩
  by_cases hne : x = i
  · rw [hne, cellAt_setValue_self hg hi]
  · rw [cellAt_setValue_ne hg hi hx hne]

end

/-- The grid with one cell brought up to date. -/
def refresh (s : Settings) (g : Grid) (i : Int) : Grid :=
  g.set { g.cellAt i with value := g.worth s i }

section

variable (hg : g.Faithful s) (hi : i ∈ g)

include hg hi

private theorem cellAt_refresh_self :
    (g.refresh s i).cellAt i = { g.cellAt i with value := g.worth s i } :=
  cellAt_setValue_self hg.indexed hi

theorem cellAt_refresh_ne (hx : x ∈ g) (hne : x ≠ i) :
    (g.refresh s i).cellAt x = g.cellAt x :=
  cellAt_setValue_ne hg.indexed hi hx hne

/-- A refreshed grid differs in a value only. -/
theorem revalued_refresh : Revalued g (g.refresh s i) :=
  revalued_setValue hg.indexed hi

/-- A refreshed cell is up to date, since it does not read itself. -/
private theorem upToDate_refresh : (g.refresh s i).UpToDate s i := by
  have hr := revalued_refresh hg hi
  have hworth := hg.worth_congr (hr.faithful hg) hr.size hr.numCols hi
    (hr.content hi) (hr.dependencies hi) fun k hk => by
      have hne : k ≠ i := fun heq => hg.noCycle hi k hk (heq ▸ .refl)
      rw [cellAt_refresh_ne hg hi (hg.dependencies_mem i hi k hk) hne]
  unfold UpToDate
  rw [hworth, cellAt_refresh_self hg hi]

end

-- ================================================================= passes

/-- Cells that are refreshed one after another, none before one that it
reads, are all up to date in the end. -/
theorem foldl_refresh (hg : g.Faithful s) (hon : ∀ i ∈ order, i ∈ g)
    (hnodup : order.Nodup)
    (hordered : order.Pairwise fun a b => ¬ g.Reads a b) :
    Revalued g (order.foldl (refresh s) g) ∧
      (∀ x ∈ g, x ∉ order → (order.foldl (refresh s) g).cellAt x = g.cellAt x) ∧
      ∀ x ∈ order, (order.foldl (refresh s) g).UpToDate s x := by
  induction order generalizing g with
  | nil => exact ⟨.refl, fun _ _ _ => rfl, nofun⟩
  | cons i order ih =>
      have hi := hon i List.mem_cons_self
      obtain ⟨hnew, hnodup⟩ := List.nodup_cons.mp hnodup
      obtain ⟨hlater, hordered⟩ := List.pairwise_cons.mp hordered
      have hr := revalued_refresh hg hi
      obtain ⟨hr', hsame, hup⟩ := ih (hr.faithful hg)
        (fun x hx => hr.mem.mpr (hon x (List.mem_cons_of_mem _ hx))) hnodup
        (by rwa [hr.reads])
      rw [List.foldl_cons]
      refine ⟨hr.trans hr', fun x hx hnot => ?_, fun x hx => ?_⟩
      · rw [List.mem_cons, not_or] at hnot
        rw [hsame x (hr.mem.mpr hx) hnot.2, cellAt_refresh_ne hg hi hx hnot.1]
      · rcases List.mem_cons.mp hx with rfl | hx
        · -- the rest of the pass changes nothing that the first cell reads
          have hx' := hr.mem.mpr hi
          have hown := hsame x hx' hnew
          refine (upToDate_refresh hg hi).congr (hr.faithful hg)
            (hr'.faithful (hr.faithful hg)) hr'.size hr'.numCols hx'
            (by rw [hown]) (by rw [hown]) (by rw [hown]) fun k hk => ?_
          rw [hr.dependencies hi] at hk
          have hstep : g.Reads x k := reads_iff.mpr ⟨hi, hk⟩
          rw [hsame k (hr.mem.mpr (hg.closed_dependencies x k hstep)) fun hin =>
            hlater k hin hstep]
        · exact hup x hx

namespace Faithful

/-- On a faithful grid a recomputation changes one value and cannot fault. -/
theorem recompute (hp : p.grid.Faithful s) (hi : i ∈ p.grid) :
    ∃ p', p.recompute s i = .ok p' ∧ p'.grid = p.grid.refresh s i := by
  have hindex : (p.grid.cellAt i).index ∈ p.grid := by rwa [hp.indexed i hi]
  rcases hp.evaluate hi with heval | ⟨⟨err, heval, -⟩, hworth⟩
  · refine ⟨_, (hp.toCoherent.recompute_of_evaluate hi heval).1, ?_⟩
    exact rewire_of_dependencies_eq hindex rfl
  · refine ⟨_, (hp.toCoherent.recompute_of_evaluate hi heval).1, ?_⟩
    unfold refresh
    rw [hworth]
    exact rewire_of_dependencies_eq hindex rfl

/-- Nor can a whole pass, which refreshes the cells in its order. -/
theorem foldlM_recompute (hp : p.grid.Faithful s)
    (horder : ∀ i ∈ order, i ∈ p.grid) :
    ∃ p', order.foldlM (Propagation.recompute s) p = .ok p' ∧
      p'.grid = order.foldl (refresh s) p.grid := by
  induction order generalizing p with
  | nil => exact ⟨p, rfl, rfl⟩
  | cons i order ih =>
      have hi := horder i List.mem_cons_self
      obtain ⟨mid, hmid, hgrid⟩ := hp.recompute hi
      have hr := revalued_refresh hp hi
      rw [← hgrid] at hr
      obtain ⟨p', hlast, hgrid'⟩ := ih (hr.faithful hp) fun x hx =>
        hr.mem.mpr (horder x (List.mem_cons_of_mem _ hx))
      refine ⟨p', ?_, ?_⟩
      · rw [List.foldlM_cons, hmid]
        exact hlast
      · rw [hgrid', hgrid, List.foldl_cons]

/-- A propagation on a faithful grid never faults. It brings all cells up to
date that depend on the root, and leaves the others as they are. -/
theorem propagate_spec (hg : g.Faithful s) (hroot : root ∈ g) :
    ∃ p, g.propagate root s = .ok p ∧ Revalued g p.grid ∧
      (∀ x, TransGen g.Reads x root → p.grid.UpToDate s x) ∧
      ∀ x ∈ g, ¬ TransGen g.Reads x root → p.grid.cellAt x = g.cellAt x := by
  obtain ⟨order, heq, hnodup, hmem, hordered⟩ := hg.order_spec hroot
  have hon : ∀ i ∈ order, i ∈ g := fun i hi => mem_of_path ((hmem i).mp hi)
  obtain ⟨p, hrun, hgrid⟩ := @foldlM_recompute s ⟨g, order, [], []⟩ order hg hon
  obtain ⟨hr, hsame, hup⟩ := foldl_refresh hg hon hnodup hordered
  refine ⟨p, ?_, ?_⟩
  · rw [propagate_of_order heq]
    exact hrun
  · rw [hgrid]
    exact ⟨hr, fun x hx => hup x ((hmem x).mpr hx), fun x hx hnot =>
      hsame x hx fun hin => hnot ((hmem x).mp hin)⟩

end Faithful

end Grid

end Worksheet
