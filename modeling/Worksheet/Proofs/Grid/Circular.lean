/-
Circular references and the order of recomputation.

Two walks look for what depends on a cell. One starts at a cell that a formula
asks for and follows dependencies, deep into them, until it meets the cell of
the formula. The other starts at the changed cell and follows dependents, level
by level, to see what has to be computed again. Where the two directions of the
edges agree, a path of the first kind is one of the second kind run backwards.
So a request is circular just if it is for the cell itself or for one that would
be computed again after it, and this holds on graphs with circles too.

An error of an edit comes from the first operation of its formula that fails
(`run_inOrder`). If it tells of a circle, that operation was a request, and
the cell to blame is one of those that it asked for.
-/
import Worksheet.Proofs.Expr.Operations
import Worksheet.Proofs.Grid.Consistency
import Worksheet.Proofs.Grid.Faults
import Worksheet.Proofs.Grid.Runs

namespace Worksheet

open Relation (ReflTransGen TransGen)

/-- What can be written as a formula has nothing missing. -/
private theorem Expr.Writable.complete {tree : Expr} {keywords : List String}
    (h : tree.Writable keywords) : tree.Complete := by
  induction tree with
  | binary op left right start ihl ihr => exact ⟨h.1, ihl h.2.1, ihr h.2.2⟩
  | hole text => exact h.elim
  | _ => trivial

namespace Grid

variable {g : Grid} {s : Settings} {current root i k x : Int} {l : List Int}
  {name first last content formula : String} {e : LookupError}

-- ================================================================= lookups

/-- A request for a cell that is refused as circular blames the cell, which
leads back. -/
private theorem circular_of_lookupCell (hg : g.Closed Cell.dependencies)
    (h : g.lookupCell current name = .ok (.error e))
    (hkind : e.kind = .circularRef) :
    ∃ k, g.indexOf name = .ok k ∧ e.cell = some k ∧
      ReflTransGen g.Reads k current := by
  classical
  cases hname : g.indexOf name with
  | error f =>
      rw [lookupCell_of_error hname] at h
      cases h
      cases hkind
  | ok k =>
      rw [lookupCell_of_indexOf hg hname] at h
      by_cases hback : ReflTransGen g.Reads k current
      · rw [if_pos hback] at h
        cases h
        exact ⟨k, rfl, rfl, hback⟩
      · rw [if_neg hback] at h
        cases hnum : g.numberAt k with
        | ok x =>
            rw [hnum] at h
            cases h
        | error e' =>
            have hkind' := kind_of_numberAt hnum
            rw [hnum] at h
            cases h
            cases hkind.symm.trans hkind'

/-- A cell is refused as circular just if it leads back. -/
theorem lookupCell_circular_iff (hg : g.Closed Cell.dependencies)
    (hname : g.indexOf name = .ok k) :
    (∃ cell, g.lookupCell current name = .ok (.error ⟨.circularRef, cell⟩)) ↔
      ReflTransGen g.Reads k current := by
  constructor
  · rintro ⟨cell, hlook⟩
    obtain ⟨k', hname', -, hback⟩ := circular_of_lookupCell hg hlook rfl
    cases hname.symm.trans hname'
    exact hback
  · intro hback
    classical
    exact ⟨some k, by rw [lookupCell_of_indexOf hg hname, if_pos hback]⟩

/-- A request for a rectangle that is refused as circular blames one of its
cells, which leads back. -/
private theorem circular_of_lookupRange (hg : g.Closed Cell.dependencies)
    (h : g.lookupRange current first last = .ok (.error e))
    (hkind : e.kind = .circularRef) :
    ∃ l, indicesOfRange first last g.numCols = .ok l ∧ (∀ i ∈ l, i ∈ g) ∧
      ∃ k ∈ l, e.cell = some k ∧ ReflTransGen g.Reads k current := by
  classical
  by_cases hon : ∃ l, indicesOfRange first last g.numCols = .ok l ∧
    ∀ i ∈ l, i ∈ g
  · obtain ⟨l, hrange, hl⟩ := hon
    rw [lookupRange_of_mem hg hrange hl] at h
    cases hfind : l.find? fun i => decide (ReflTransGen g.Reads i current) with
    | some k =>
        rw [hfind] at h
        cases h
        exact ⟨l, hrange, hl, k, List.mem_of_find?_eq_some hfind, rfl,
          by simpa using List.find?_some hfind⟩
    | none =>
        rw [hfind] at h
        cases hnum : l.mapM g.numberAt with
        | ok values =>
            rw [hnum] at h
            cases h
        | error e' =>
            have hkind' := kind_of_mapM_numberAt hnum
            rw [hnum] at h
            cases h
            cases hkind.symm.trans hkind'
  · rw [lookupRange_of_notMem fun l hrange hl => hon ⟨l, hrange, hl⟩] at h
    cases h
    cases hkind

/-- A rectangle is refused as circular just if a cell of it leads back. -/
theorem lookupRange_circular_iff (hg : g.Closed Cell.dependencies)
    (hrange : indicesOfRange first last g.numCols = .ok l)
    (hl : ∀ i ∈ l, i ∈ g) :
    (∃ cell, g.lookupRange current first last =
      .ok (.error ⟨.circularRef, cell⟩)) ↔
      ∃ k ∈ l, ReflTransGen g.Reads k current := by
  constructor
  · rintro ⟨cell, hlook⟩
    obtain ⟨l', hrange', -, k, hk, -, hback⟩ :=
      circular_of_lookupRange hg hlook rfl
    cases hrange.symm.trans hrange'
    exact ⟨k, hk, hback⟩
  · rintro ⟨k, hk, hback⟩
    classical
    rw [lookupRange_of_mem hg hrange hl]
    cases hfind : l.find? fun i => decide (ReflTransGen g.Reads i current) with
    | some first => exact ⟨some first, rfl⟩
    | none =>
        exact absurd (decide_eq_true hback) (List.find?_eq_none.mp hfind k hk)

-- ================================================================ formulas

/-- The answers of a grid to requests from one of its cells. -/
private theorem exists_answers (hg : g.Closed Cell.dependencies)
    (current : Int) :
    ∃ a : Answers, g.source current = a.source := by
  have hcell : ∀ name, ∃ answer, g.lookupCell current name = .ok answer :=
    fun name => by
    rcases hlook : g.lookupCell current name with f | answer
    · have hknown := @lookupCell_known g current name hg
      rw [hlook] at hknown
      cases hknown
    · exact ⟨answer, rfl⟩
  have hrange : ∀ first last,
      ∃ answer, g.lookupRange current first last = .ok answer :=
    fun first last => by
      rcases hlook : g.lookupRange current first last with f | answer
      · have hknown := @lookupRange_known g current first last hg
        rw [hlook] at hknown
        cases hknown
      · exact ⟨answer, rfl⟩
  choose cell hcell using hcell
  choose range hrange using hrange
  refine ⟨⟨fun _ => cell, fun _ => range⟩, ?_⟩
  unfold source Answers.source
  congr
  · funext _ name
    exact hcell name
  · funext _ first last
    exact hrange first last

/-- The cell that is blamed for a circle in a formula leads back to the cell of
the formula. -/
private theorem blame_of_evaluateFormula {err : EvalError}
    (hg : g.Closed Cell.dependencies)
    (h : g.evaluateFormula i formula s = .ok (.error (.eval err)))
    (hkind : err.kind = .circularRef) :
    ∃ k ∈ g, err.cell = some k ∧ ReflTransGen g.Reads k i := by
  rcases evaluateFormula_cases g i formula s
    with ⟨f, -, heq⟩ | ⟨err', hread, heq⟩ |
    ⟨tree, t, hread, ⟨f, -, heq⟩ | ⟨err', hran, heq⟩ | ⟨x, -, heq⟩⟩
  · cases heq.symm.trans h
  · cases heq.symm.trans h
    exact absurd hread Expr.ofText_ne_eval
  · cases heq.symm.trans h
  · cases heq.symm.trans h
    obtain ⟨a, ha⟩ := exists_answers hg i
    have hrun := Expr.run_inOrder a s.registry .empty
      (Expr.writable_of_ofText hread).complete
    rw [ha] at hran
    rw [hran] at hrun
    cases hrun with
    | completed _ _ _ hresult => cases hresult
    | stopped hfirst _ hresult =>
        cases hresult
        -- a division, a name or the function itself is not to blame for a
        -- circle
        cases hfirst.fails with
        | @cell asked cell _ hrefused =>
            have hlook : g.lookupCell i cell.name =
                .ok (a.cell asked cell.name) :=
              congrArg (fun source => source.cell asked cell.name) ha
            obtain ⟨k, hname, hblame⟩ :=
              circular_of_lookupCell hg (hlook.trans
                (congrArg Except.ok hrefused)) hkind
            exact ⟨k, mem_of_indexOf hname, hblame⟩
        | zero => cases hkind
        | unknown => cases hkind
        | @range asked _ first last _ _ _ _ hrefused =>
            have hlook : g.lookupRange i first.name last.name =
                .ok (a.range asked first.name last.name) :=
              congrArg (fun source => source.range asked first.name
                last.name) ha
            obtain ⟨l, -, hl, k, hk, hblame⟩ :=
              circular_of_lookupRange hg
                (hlook.trans (congrArg Except.ok hrefused)) hkind
            exact ⟨k, hl k hk, hblame⟩
        | function => cases hkind
  · cases heq.symm.trans h

-- =================================================================== edits

/-- An edit is refused with the error of its formula. -/
private theorem evaluateFormula_of_edit {err : FormulaError}
    (hedit : g.edit i content s = .ok (.error ⟨k, err⟩)) :
    ∃ formula, s.body? content = some formula ∧
      g.evaluateFormula i formula s = .ok (.error err) := by
  unfold Grid.edit editBy at hedit
  obtain ⟨result, heval, hedit⟩ := bind_ok hedit
  cases result with
  | ok new =>
      obtain ⟨old, -, hedit⟩ := bind_ok hedit
      obtain ⟨committed, -, hedit⟩ := bind_ok hedit
      cases hedit
  | error err' =>
      cases hedit
      exact evaluateBy_eq_error heval

/-- The cell that is blamed for a circle in an edit leads back to the edited
cell. -/
theorem blame_of_edit {err : EvalError} (hclosed : g.Closed Cell.dependencies)
    (hedit : g.edit i content s = .ok (.error ⟨x, .eval err⟩))
    (hkind : err.kind = .circularRef) :
    ∃ k ∈ g, err.cell = some k ∧ ReflTransGen g.Reads k i := by
  obtain ⟨formula, -, hformula⟩ := evaluateFormula_of_edit hedit
  exact blame_of_evaluateFormula hclosed hformula hkind

/-- A formula that is a single cell is refused as circular just if this cell
leads back. -/
theorem edit_ref_circular_iff {cell : CellRef}
    (hclosed : g.Closed Cell.dependencies) (hi : i ∈ g)
    (hbody : s.body? content = some formula)
    (hparse : Expr.ofText s.registry.names s.maxLength formula =
      .ok (.ok (.ref cell))) (hname : g.indexOf cell.name = .ok k) :
    g.edit i content s =
      .ok (.error ⟨i, .eval ⟨.circularRef, .ref cell, some k, ""⟩⟩) ↔
      ReflTransGen g.Reads k i := by
  constructor
  · intro hedit
    obtain ⟨k', -, hk, hback⟩ := blame_of_edit hclosed hedit rfl
    cases hk
    exact hback
  · intro hback
    classical
    have hlook : g.lookupCell i cell.name =
        .ok (.error ⟨.circularRef, some k⟩) := by
      rw [lookupCell_of_indexOf hclosed hname, if_pos hback]
    have hformula : g.evaluateFormula i formula s =
        .ok (.error (.eval ⟨.circularRef, .ref cell, some k, ""⟩)) := by
      rw [evaluateFormula_of_tree hparse]
      unfold Expr.evaluate Expr.run source
      dsimp only
      rw [hlook]
      rfl
    unfold Grid.edit editBy
    rw [evaluateBy_formula (cell_of_mem hi) hbody, hformula]
    rfl

-- =================================================================== order

/-- The order of recomputation lists the other cells that the root leads to. -/
theorem mem_recomputationOrder (hg : g.Closed Cell.dependents)
    (hroot : root ∈ g) :
    ∃ order, g.recomputationOrder root = .ok order ∧
      ∀ x, x ∈ order ↔ x ≠ root ∧ ReflTransGen g.Feeds root x := by
  obtain ⟨l, heq, hnodup, hmem⟩ := affected_spec hg hroot
  refine ⟨g.sortAffected l, ?_, fun x => ?_⟩
  · unfold recomputationOrder
    rw [heq]
    rfl
  · rw [mem_sortAffected hnodup, hmem x]

/-- Where the two directions of the edges agree, the cells that lead back to a
cell are the cell itself and those that are computed again after it. -/
theorem mem_cons_recomputationOrder (hg : g.Indexed)
    (hdependencies : g.Closed Cell.dependencies)
    (hdependents : g.Closed Cell.dependents) (hagree : g.brokenEdges = .ok [])
    (hroot : root ∈ g) :
    ∃ order, g.recomputationOrder root = .ok order ∧
      ∀ x, x ∈ root :: order ↔ ReflTransGen g.Reads x root := by
  have hswap := (brokenEdges_eq_nil_iff hg hdependencies hdependents).mp hagree
  obtain ⟨order, heq, hmem⟩ := mem_recomputationOrder hdependents hroot
  refine ⟨order, heq, fun x => ?_⟩
  rw [List.mem_cons, hmem x, reach_feeds_iff_of_agree hswap]
  by_cases hx : x = root
  · rw [hx]
    exact iff_of_true (Or.inl rfl) .refl
  · exact (or_iff_right hx).trans (and_iff_right hx)

/-- What is asked for and what is edited at a cell runs in a circle exactly for
some cells. -/
structure CircularFor (g : Grid) (current : Int) (l : List Int) : Prop where
  /-- A cell that has a name is refused as circular just if it is one of
  them. -/
  cell : ∀ name k, g.indexOf name = .ok k →
    ((∃ cell, g.lookupCell current name = .ok (.error ⟨.circularRef, cell⟩)) ↔
        k ∈ l)
  /-- A rectangle on the grid is refused as circular just if it meets them. -/
  range : ∀ first last rect, indicesOfRange first last g.numCols = .ok rect →
    (∀ i ∈ rect, i ∈ g) →
    ((∃ cell, g.lookupRange current first last =
        .ok (.error ⟨.circularRef, cell⟩)) ↔ ∃ k ∈ rect, k ∈ l)
  /-- An edit that is refused as circular blames one of them. -/
  blamed : ∀ content s i err, g.edit current content s =
      .ok (.error ⟨i, .eval err⟩) →
    err.kind = .circularRef → ∃ k ∈ l, err.cell = some k
  /-- A formula that is nothing but a cell is refused, with this cell to blame,
  just if it is one of them. -/
  refused : ∀ content s formula cell k, s.body? content = some formula →
    Expr.ofText s.registry.names s.maxLength formula = .ok (.ok (.ref cell)) →
    g.indexOf cell.name = .ok k →
    (g.edit current content s =
        .ok (.error ⟨current, .eval ⟨.circularRef, .ref cell, some k, ""⟩⟩) ↔
            k ∈ l)
  /-- An edit that is accepted reads none of them. -/
  accepted : ∀ content s edited, g.edit current content s = .ok (.ok edited) →
    ∀ k ∈ (edited.cellAt current).dependencies, k ∉ l

/-- Circles run through the cells that lead back. -/
private theorem circularFor_of_reach (hg : g.Indexed)
    (hclosed : g.Closed Cell.dependencies) (hcurrent : current ∈ g)
    (hmem : ∀ x, x ∈ l ↔ ReflTransGen g.Reads x current) :
    g.CircularFor current l where
  cell := fun name k hname => by
    rw [hmem]
    exact lookupCell_circular_iff hclosed hname
  range := fun first last rect hrange hrect => by
    simp only [hmem]
    exact lookupRange_circular_iff hclosed hrange hrect
  blamed := fun content s i err hedit hkind => by
    obtain ⟨k, -, hk, hback⟩ := blame_of_edit hclosed hedit hkind
    exact ⟨k, (hmem k).mpr hback, hk⟩
  refused := fun content s formula cell k hbody hparse hname => by
    rw [hmem]
    exact edit_ref_circular_iff hclosed hcurrent hbody hparse hname
  accepted := fun content s edited hedit k hk hin => by
    obtain ⟨new, -, hacc, rfl⟩ := accepted_of_edit hg hclosed hcurrent hedit
    have hindex : new.index = current := hacc.index.trans (hg current hcurrent)
    have hself := @cellAt_rewire_self g (g.cellAt current)
      new (hindex ▸ hcurrent)
    rw [hindex] at hself
    rw [hself] at hk
    exact hacc.noCycle k hk ((hmem k).mp hin)

/-- Where the two directions of the edges agree, a cell runs in a circle exactly
for itself and the cells that have to be computed again when it changes. -/
theorem circular_iff_recomputed (hg : g.Indexed)
    (hdependencies : g.Closed Cell.dependencies)
    (hdependents : g.Closed Cell.dependents) (hagree : g.brokenEdges = .ok [])
    (hcurrent : current ∈ g) :
    ∃ order, g.recomputationOrder current = .ok order ∧
      g.CircularFor current (current :: order) := by
  obtain ⟨order, heq, hmem⟩ :=
    mem_cons_recomputationOrder hg hdependencies hdependents hagree hcurrent
  exact ⟨order, heq, circularFor_of_reach hg hdependencies hcurrent hmem⟩

/-- The first two cells read each other, the third one reads itself, and the
last one reads the second. -/
def entwined : Grid :=
  ⟨#[⟨0, "=B0", none, [1], [1]⟩, ⟨1, "=A0", none, [0], [0, 3]⟩,
    ⟨2, "=A1", none, [2], [2]⟩, ⟨3, "=B0", none, [1], []⟩], 2⟩

theorem circular_iff_recomputed_entwined :
    entwined.brokenEdges = .ok [] ∧ entwined.recomputationOrder 0 = .ok [1, 3] ∧
      entwined.CircularFor 0 [0, 1, 3] := by
  have hagree : entwined.brokenEdges = .ok [] := by decide +kernel
  have horder : entwined.recomputationOrder 0 = .ok [1, 3] := by decide +kernel
  obtain ⟨order, heq, hcircular⟩ := @circular_iff_recomputed entwined 0
    (indexed_of_cells (by decide)) (closed_of_cells (by decide))
      (closed_of_cells (by decide)) hagree (by decide)
  cases heq.symm.trans horder
  exact ⟨hagree, horder, hcircular⟩

end Grid

end Worksheet
