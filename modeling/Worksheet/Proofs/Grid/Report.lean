/-
What a propagation tells of itself: the changes and the failures.

A pass changes the value of each cell that it visits once, so the value
that a visit finds is the one from before the pass and the value that it
leaves is the one after it. The changes told are therefore those between
the two grids, cell by cell in the order of the visits (`Reports.deltas`),
and whoever writes them into the first grid gets the second.

A failure is met on a grid in the middle of the pass. What the cell reads
has been visited by then and changes no more, so the content still fails at
the end of the pass, and in the same way (`Reports.errors`). On a faithful
grid it fails because of the values that it meets, never because of what is
written in it (`Faithful.failure_cases`).

Two values are the same for a change when they are equal numbers or neither
is a number, so a zero can change its sign without being told.
-/
import Mathlib
import Worksheet.Proofs.Grid.History

namespace Worksheet

open Relation (ReflTransGen TransGen)

-- ================================================================= values

/-- Each value is the same as itself, also one that is no number. -/
private theorem sameValue_self (v : Option Float) : sameValue v v = true := by
  cases v with
  | none => rfl
  | some x =>
      show (x == x || (x.isNaN && x.isNaN)) = true
      by_cases hx : x = Float.nan
      · rw [Float.isNaN_eq_decide_eq_nan, decide_eq_true hx, Bool.and_self,
          Bool.or_true]
      · rw [Float.beq_self_iff.mpr hx, Bool.true_or]

namespace Grid

variable {g h : Grid} {s : Settings} {i root x : Int} {p p' : Propagation}
  {order : List Int} {ds : List Delta} {step : Step} {steps : List Step}

-- =============================================================== failures

/-- The failure of a cell whose content is evaluated at present, as a
propagation tells it. -/
def failure (g : Grid) (s : Settings) (i : Int) : List EditError :=
  match g.evaluate i (g.cellAt i).content s with
  | .ok result => EditError.ofResult i result
  | .error _ => []

namespace Faithful

/-- Whether a cell fails, and how, depends on the values of what it reads. -/
private theorem failure_congr (hg : g.Faithful s) (hr : Revalued g h)
    (hi : i ∈ g)
    (hvalue : ∀ k ∈ (g.cellAt i).dependencies,
      (h.cellAt k).value = (g.cellAt k).value) :
    h.failure s i = g.failure s i := by
  have hh := hr.faithful hg
  have hi' := hr.mem.mpr hi
  have hback' := hh.noCycle hi'
  rw [hr.dependencies hi] at hback'
  unfold failure
  rw [hr.content hi]
  cases hbody : s.body? (g.cellAt i).content with
  | none =>
      rw [evaluate_constant hi hbody, evaluate_constant hi' hbody]
      rfl
  | some formula =>
      rw [evaluate_formula hi hbody, evaluate_formula hi' hbody,
        evaluateFormula_congr hg.closed_dependencies hh.closed_dependencies
          hr.size hr.numCols
          (hg.records i hi) (hg.noCycle hi) hback' hvalue hbody]
      rcases g.evaluateFormula i formula s with f | (err | e) <;> rfl

/-- A content that is accepted and reads others is a formula, and has a
number. -/
private theorem value_ne_none_of_evaluate {content : String} {new : Cell}
    (hi : i ∈ g) (heval : g.evaluate i content s = .ok (.ok new))
    (hreads : new.dependencies ≠ []) :
    new.value ≠ none := by
  cases hbody : s.body? content with
  | none =>
      rw [evaluate_constant hi hbody] at heval
      cases heval
      exact absurd rfl hreads
  | some formula =>
      rw [evaluate_formula hi hbody] at heval
      rcases hformula : g.evaluateFormula i formula s with f | (err | e)
      · rw [hformula] at heval
        cases heval
      · rw [hformula] at heval
        cases heval
      · rw [hformula] at heval
        cases heval
        exact Option.some_ne_none e.value

/-- A cell that reads others and is up to date has a number and no failure, or
it has none and fails because of the values that it meets. -/
theorem failure_cases (hg : g.Faithful s) (hi : i ∈ g) (hup : g.UpToDate s i)
    (hreads : (g.cellAt i).dependencies ≠ []) :
    g.failure s i = [] ∧ (g.cellAt i).value ≠ none ∨
      ∃ err, g.failure s i = [⟨i, err⟩] ∧ (g.cellAt i).value = none ∧
        g.evaluate i (g.cellAt i).content s = .ok (.error err) ∧
        FailsByValues err := by
  unfold failure
  rcases hg.evaluate hi with heval | ⟨⟨err, heval, hfails⟩, hworth⟩
  · left
    rw [heval]
    refine ⟨rfl, ?_⟩
    rw [hup]
    exact value_ne_none_of_evaluate hi heval hreads
  · right
    rw [heval]
    exact ⟨err, rfl, hup.trans hworth, rfl, hfails⟩

section

variable (hg : g.Faithful s) (hon : ∀ i ∈ order, i ∈ g)
  (hup : ∀ i ∈ order, g.UpToDate s i)
  (hreads : ∀ i ∈ order, (g.cellAt i).dependencies ≠ [])

include hg hon hup hreads

/-- The cells that fail are those without a number. -/
theorem cells_of_failures : (order.flatMap (g.failure s)).map EditError.cell =
    order.filter fun i => (g.cellAt i).value.isNone := by
  induction order with
  | nil => rfl
  | cons i order ih =>
      have hrest := ih (fun k hk => hon k (List.mem_cons_of_mem _ hk))
        (fun k hk => hup k (List.mem_cons_of_mem _ hk))
        fun k hk => hreads k (List.mem_cons_of_mem _ hk)
      rw [List.flatMap_cons, List.map_append, hrest]
      rcases hg.failure_cases (hon i List.mem_cons_self)
        (hup i List.mem_cons_self)
        (hreads i List.mem_cons_self) with ⟨hnone, hvalue⟩
          | ⟨err, herr, hvalue, -⟩
      · rw [hnone, List.filter_cons_of_neg (by simpa using hvalue)]
        rfl
      · rw [herr, List.filter_cons_of_pos (by simp [hvalue])]
        rfl

/-- Their failures have the causes that evaluation names, and the values are to
blame. -/
theorem cause_of_failure {e : EditError}
    (he : e ∈ order.flatMap (g.failure s)) :
    g.evaluate e.cell (g.cellAt e.cell).content s = .ok (.error e.cause) ∧
      FailsByValues e.cause := by
  obtain ⟨i, hi, he⟩ := List.mem_flatMap.mp he
  rcases hg.failure_cases (hon i hi) (hup i hi) (hreads i hi) with
    ⟨hnone, -⟩ | ⟨err, herr, -, heval, hfails⟩
  · rw [hnone] at he
    cases he
  · rw [herr, List.mem_singleton] at he
    cases he
    exact ⟨heval, hfails⟩

end

end Faithful

-- ================================================================= passes

/-- What a propagation tells of the cells that it has visited: how their values
differ from those before, and how they fail on the grid that it ends with. -/
structure Reports (s : Settings) (g : Grid) (p : Propagation) : Prop where
  deltas : p.deltas = p.visited.flatMap fun i => Delta.between i (g.cellAt i)
      (p.grid.cellAt i)
  errors : p.errors = p.visited.flatMap (p.grid.failure s)

namespace Faithful

/-- One visit tells how the value of the cell changes and how its content
fails. -/
theorem recompute_reports (hp : p.grid.Faithful s) (hi : i ∈ p.grid)
    (hstep : p.recompute s i = .ok p') :
    p'.visited = p.visited ∧
      p'.deltas = p.deltas ++ Delta.between i (p.grid.cellAt i)
      (p'.grid.cellAt i) ∧ p'.errors = p.errors ++ p.grid.failure s i := by
  obtain ⟨result, heval, rfl, -⟩ := hp.toCoherent.recompute_ok hi hstep
  have hindex := hp.indexed i hi
  have hnew : ((p.grid.cellAt i).recomputed result).index = i := by
    cases result with
    | error err => exact hindex
    | ok new =>
        exact (evaluate_ok hp.closed_dependencies heval).index.trans hindex
  have hcell : (p.advance i result).grid.cellAt i = (p.grid.cellAt i).recomputed
      result := by
    have hself := @cellAt_rewire_self p.grid (p.grid.cellAt i)
      ((p.grid.cellAt i).recomputed result) (by rwa [hnew])
    rwa [hnew] at hself
  refine ⟨rfl, ?_, ?_⟩
  · rw [hcell]
    rfl
  · unfold failure
    rw [heval]
    rfl

/-- A pass over cells, each once and none before one that it reads, tells what
it has changed and what fails in the end. -/
theorem foldlM_reports (hp : p.grid.Faithful s) (hon : ∀ i ∈ order, i ∈ p.grid)
    (hnodup : order.Nodup)
    (hordered : order.Pairwise fun a b => ¬ p.grid.Reads a b)
    (hpass : order.foldlM (Propagation.recompute s) p = .ok p') :
    p'.visited = p.visited ∧
      p'.deltas = p.deltas ++ order.flatMap (fun i =>
        Delta.between i (p.grid.cellAt i) (p'.grid.cellAt i)) ∧
      p'.errors = p.errors ++ order.flatMap (p'.grid.failure s) := by
  induction order generalizing p with
  | nil =>
      cases hpass
      exact ⟨rfl, (List.append_nil _).symm, (List.append_nil _).symm⟩
  | cons i order ih =>
      have hi := hon i List.mem_cons_self
      obtain ⟨hnew, hnodup⟩ := List.nodup_cons.mp hnodup
      obtain ⟨hlater, hordered⟩ := List.pairwise_cons.mp hordered
      obtain ⟨mid, hstep, hrest⟩ := bind_ok (by rwa [List.foldlM_cons] at hpass)
      obtain ⟨hvisited, hdeltas, herrors⟩ := hp.recompute_reports hi hstep
      obtain ⟨mid', hstep', hgrid⟩ := hp.recompute hi
      cases hstep.symm.trans hstep'
      have hr := revalued_refresh hp hi
      rw [← hgrid] at hr
      have hmid := hr.faithful hp
      have hon' : ∀ k ∈ order, k ∈ mid.grid := fun k hk =>
        hr.mem.mpr (hon k (List.mem_cons_of_mem _ hk))
      rw [← hr.reads] at hordered
      obtain ⟨hvisited', hdeltas', herrors'⟩ :=
        ih hmid hon' hnodup hordered hrest
      obtain ⟨last, hlast, hgrid'⟩ := hmid.foldlM_recompute hon'
      cases hrest.symm.trans hlast
      obtain ⟨hr', hsame, -⟩ := foldl_refresh hmid hon' hnodup hordered
      rw [← hgrid'] at hr' hsame
      -- the later visits leave the first cell alone, and the first visit leaves
      -- theirs
      have hfirst : p'.grid.cellAt i = mid.grid.cellAt i :=
        hsame i (hr.mem.mpr hi) hnew
      have hothers : ∀ k ∈ p.grid, k ≠ i →
          mid.grid.cellAt k = p.grid.cellAt k := by
        intro k hk hne
        rw [hgrid, cellAt_refresh_ne hp hi hk hne]
      have hfailure : p'.grid.failure s i = p.grid.failure s i := by
        refine hp.failure_congr (hr.trans hr') hi fun k hk => ?_
        have hstep : p.grid.Reads i k := reads_iff.mpr ⟨hi, hk⟩
        have hk' := hp.closed_dependencies i k hstep
        have hne : k ≠ i := fun heq => hp.noCycle hi k hk (heq ▸ .refl)
        rw [hsame k (hr.mem.mpr hk') fun hin => hlater k hin hstep,
          hothers k hk' hne]
      refine ⟨hvisited'.trans hvisited, ?_, ?_⟩
      · rw [hdeltas', hdeltas, List.flatMap_cons, hfirst, List.append_assoc]
        congr 2
        refine List.flatMap_congr fun k hk => ?_
        rw [hothers k (hon k (List.mem_cons_of_mem _ hk)) fun heq => hnew
          (heq ▸ hk)]
      · rw [herrors', herrors, List.flatMap_cons, hfailure, List.append_assoc]

/-- A propagation visits the cells that depend on the root, each once, and tells
what it has changed in them and how they fail. -/
theorem propagate_reports (hg : g.Faithful s) (hroot : root ∈ g)
    (hprop : g.propagate root s = .ok p) :
    p.visited.Nodup ∧ (∀ x, x ∈ p.visited ↔ TransGen g.Reads x root) ∧
      Reports s g p := by
  obtain ⟨order, heq, hnodup, hmem, hordered⟩ := hg.order_spec hroot
  rw [propagate_of_order heq] at hprop
  obtain ⟨hvisited, hdeltas, herrors⟩ :=
    foldlM_reports (p := ⟨g, order, [], []⟩) hg
    (fun i hi => mem_of_path ((hmem i).mp hi)) hnodup hordered hprop
  rw [hvisited]
  refine ⟨hnodup, hmem, ?_, ?_⟩
  · rw [hvisited]
    exact hdeltas
  · rw [hvisited]
    exact herrors

end Faithful

-- ================================================================ changes

/-- The cells among some whose values differ between two grids, with both
values. -/
private theorem flatMap_between :
    (order.flatMap fun i => Delta.between i (g.cellAt i) (h.cellAt i)) =
    (order.filter fun i => !sameValue (g.cellAt i).value (h.cellAt i).value).map
      fun i =>
      ⟨i, (g.cellAt i).value, (h.cellAt i).value⟩ := by
  induction order with
  | nil => rfl
  | cons i order ih =>
      rw [List.flatMap_cons, ih]
      unfold Delta.between
      cases hsame : sameValue (g.cellAt i).value (h.cellAt i).value with
      | true =>
          rw [if_pos rfl, List.filter_cons_of_neg (by simp [hsame]),
            List.nil_append]
      | false =>
          rw [if_neg Bool.false_ne_true,
            List.filter_cons_of_pos (by simp [hsame]),
            List.map_cons, List.singleton_append]

/-- The grid with the new value of a change in its cell. -/
def write (g : Grid) (d : Delta) : Grid := g.setValue d.cell d.new

/-- Changes of different cells that are written one after another are all there
in the end. -/
private theorem foldl_write (hg : g.Indexed) (hon : ∀ d ∈ ds, d.cell ∈ g)
    (hnodup : (ds.map Delta.cell).Nodup) :
    Revalued g (ds.foldl write g) ∧
      (∀ d ∈ ds, ((ds.foldl write g).cellAt d.cell).value = d.new) ∧
      ∀ x ∈ g, x ∉ ds.map Delta.cell →
        (ds.foldl write g).cellAt x = g.cellAt x := by
  induction ds generalizing g with
  | nil => exact ⟨.refl, nofun, fun _ _ _ => rfl⟩
  | cons d ds ih =>
      have hd := hon d List.mem_cons_self
      rw [List.map_cons] at hnodup
      obtain ⟨hnew, hnodup⟩ := List.nodup_cons.mp hnodup
      have hr : Revalued g (g.write d) := revalued_setValue hg hd
      have hindexed : (g.write d).Indexed := fun i hi => by
        have hi' := hr.mem.mp hi
        rw [hr.index hi', hg i hi']
      obtain ⟨hr', hvalue, hsame⟩ := ih hindexed
        (fun e he => hr.mem.mpr (hon e (List.mem_cons_of_mem _ he))) hnodup
      rw [List.foldl_cons]
      refine ⟨hr.trans hr', fun e he => ?_, fun x hx hnot => ?_⟩
      · rcases List.mem_cons.mp he with rfl | he
        · rw [hsame _ (hr.mem.mpr hd) hnew, write, cellAt_setValue_self hg hd]
        · exact hvalue e he
      · rw [List.map_cons, List.mem_cons, not_or] at hnot
        rw [hsame x (hr.mem.mpr hx) hnot.2, write,
          cellAt_setValue_ne hg hd hx hnot.1]

/-- Two grids that differ in their values at most, and there only between values
that count as the same. -/
structure Alike (g h : Grid) : Prop extends Revalued g h where
  same : ∀ i ∈ g, sameValue (g.cellAt i).value (h.cellAt i).value = true

/-- What is told of the cells outside of which nothing has changed is enough to
make the change again. -/
private theorem alike_foldl_write (hg : g.Indexed) (hr : Revalued g h)
    (hon : ∀ i ∈ order, i ∈ g) (hnodup : order.Nodup)
    (hsame : ∀ x ∈ g, x ∉ order → h.cellAt x = g.cellAt x)
    (hds : ds = (order.filter fun i => !sameValue (g.cellAt i).value
      (h.cellAt i).value).map
      fun i => ⟨i, (g.cellAt i).value, (h.cellAt i).value⟩) :
    Alike (ds.foldl write g) h := by
  have hcells : ds.map Delta.cell =
      order.filter fun i => !sameValue (g.cellAt i).value
        (h.cellAt i).value := by
    rw [hds, List.map_map]
    exact List.map_id' _
  obtain ⟨hr', hvalue, hrest⟩ := @foldl_write g ds hg
    (fun d hd => hon _ (List.mem_filter.mp (hcells ▸ List.mem_map_of_mem hd)).1)
    (hcells ▸ hnodup.filter _)
  refine ⟨⟨hr.size.trans hr'.size.symm, hr.numCols.trans hr'.numCols.symm,
    fun x hx => ?_⟩,
    fun x hx => ?_⟩
  · have hx' := hr'.mem.mp hx
    rw [hr.cell x hx', hr'.cell x hx']
  · have hx' := hr'.mem.mp hx
    by_cases hin : x ∈ ds.map Delta.cell
    · obtain ⟨d, hd, rfl⟩ := List.mem_map.mp hin
      have hnew : d.new = (h.cellAt d.cell).value := by
        rw [hds] at hd
        obtain ⟨i, -, rfl⟩ := List.mem_map.mp hd
        rfl
      rw [hvalue d hd, hnew]
      exact sameValue_self _
    · rw [hrest x hx' hin]
      by_cases hvisited : x ∈ order
      · rw [hcells, List.mem_filter, not_and] at hin
        simpa using hin hvisited
      · rw [hsame x hx' hvisited]
        exact sameValue_self _

/-- After any run from an empty grid a propagation changes values only, and only
in the cells that it visits; the root is none of them. It tells the cells whose
value is another one afterwards, in the order of the visits, each with the value
before and the one after. Written into the grid before, these changes make the
grid after. -/
theorem propagate_accounts {numCols numRows : Int}
    (hstart : Grid.empty numCols numRows = .ok g)
    (hsteps : ∀ step ∈ steps, step.index ∈ g) (hroot : root ∈ g) :
    ∃ p, (g.runUnder s steps).propagate root s = .ok p ∧
      Revalued (g.runUnder s steps) p.grid ∧
      (∀ x ∈ g, x ∉ p.visited →
        p.grid.cellAt x = (g.runUnder s steps).cellAt x) ∧
      root ∉ p.visited ∧ p.visited.Nodup ∧
      p.deltas = (p.visited.filter fun i => !sameValue
        ((g.runUnder s steps).cellAt i).value (p.grid.cellAt i).value).map
        (fun i =>
          ⟨i, ((g.runUnder s steps).cellAt i).value, (p.grid.cellAt i).value⟩) ∧
      Alike (p.deltas.foldl write (g.runUnder s steps)) p.grid := by
  obtain ⟨hrun, hsize, -⟩ := (Faithful.of_empty hstart).runUnder hsteps
  have hmem : ∀ x, x ∈ g.runUnder s steps ↔ x ∈ g := fun _ => mem_congr hsize
  have hroot' := (hmem root).mpr hroot
  obtain ⟨p, hprop, hr, -, hsame⟩ := hrun.propagate_spec hroot'
  obtain ⟨hnodup, hvisited, hreports⟩ := hrun.propagate_reports hroot' hprop
  have hdeltas := hreports.deltas.trans flatMap_between
  have hunvisited : ∀ x ∈ g.runUnder s steps, x ∉ p.visited →
      p.grid.cellAt x = (g.runUnder s steps).cellAt x := fun x hx hnot =>
    hsame x hx fun hpath => hnot ((hvisited x).mpr hpath)
  refine ⟨p, hprop, hr, fun x hx => hunvisited x ((hmem x).mpr hx),
    fun hin => ?_, hnodup, hdeltas, ?_⟩
  · exact hrun.acyclic root ((hvisited root).mp hin)
  · exact alike_foldl_write hrun.indexed hr
      (fun i hi => mem_of_path ((hvisited i).mp hi)) hnodup hunvisited hdeltas

/-- The second cell still shows the sum with the number that the first one had
before. -/
theorem propagate_accounts_two_cells :
    let before := twoCells.runUnder .standard [.edit 0 "5", .edit 1 "=A0+1",
      .edit 0 "7"]
    ∃ p, before.propagate 0 .standard = .ok p ∧ Revalued before p.grid ∧
      (∀ x ∈ twoCells, x ∉ p.visited → p.grid.cellAt x = before.cellAt x) ∧
      0 ∉ p.visited ∧ p.visited.Nodup ∧
      p.deltas = (p.visited.filter fun i => !sameValue (before.cellAt i).value
        (p.grid.cellAt i).value).map (fun i =>
          ⟨i, (before.cellAt i).value, (p.grid.cellAt i).value⟩) ∧
      Alike (p.deltas.foldl write before) p.grid :=
  propagate_accounts empty_twoCells (by decide) (by decide)

end Grid

end Worksheet
