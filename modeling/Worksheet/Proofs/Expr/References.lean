/-
The references of an expression, and its value on a grid.

The references are read off the tree alone: the cells that it mentions,
from left to right, with the rectangles of its functions spelled out row
by row. Evaluation stops at the first failure and records what it has used
by then, so its record is shorter when it fails. When it succeeds nothing
was skipped (`run_value`): the record is exactly the list of references,
each of them lies on the grid, holds a number, and does not lead back.

An expression that has succeeded once is sound: it has no holes, no sign
without a meaning, and calls known functions only. On every grid of the
same shape it is then evaluated without a fault (`run_total`), and two
grids that agree on its references give the same outcome (`run_congr`).
-/
import Worksheet.Proofs.Expr.Eval
import Worksheet.Proofs.Grid.Lookup

namespace Worksheet

open Relation (ReflTransGen)

namespace Expr

variable {g h : Grid} {functions : Registry} {current : Int} {tree : Expr}
  {t t' : Trace} {refs : List Int} {v : Float}

-- ============================================================ references

/-- The indices of all cells that an expression mentions, in order. -/
def references (g : Grid) : Expr → Except Fault (List Int)
  | number .. => .ok []
  | ref cell => (g.indexOf cell.name).map ([·])
  | binary _ left right _ => do
    return (← left.references g) ++ (← right.references g)
  | aggregate _ first last _ => indicesOfRange first.name last.name g.numCols
  | hole _ => .ok []

/-- Every part of the expression has a meaning, whatever the cells hold. -/
def Sound (functions : Registry) : Expr → Prop
  | number .. | ref _ => True
  | binary op left right _ =>
    (∀ sign, op ≠ .other sign) ∧ left.Sound functions ∧ right.Sound functions
  | aggregate name .. => functions.get? name ≠ none
  | hole _ => False

theorem references_congr (hsize : h.size = g.size)
    (hcols : h.numCols = g.numCols) :
    tree.references h = tree.references g := by
  induction tree with
  | number value text start => rfl
  | ref cell => rw [references, references, Grid.indexOf_congr hsize hcols]
  | binary op left right start ihl ihr => rw [references, references, ihl, ihr]
  | aggregate name first last start => rw [references, references, hcols]
  | hole text => rfl

/-- A cell that is mentioned is the only reference there. -/
theorem references_ref {cell : CellRef}
    (hrefs : (ref cell).references g = .ok refs) :
    ∃ k, g.indexOf cell.name = .ok k ∧ refs = [k] := by
  rw [references] at hrefs
  cases hname : g.indexOf cell.name with
  | error f =>
      rw [hname] at hrefs
      cases hrefs
  | ok k =>
      rw [hname] at hrefs
      cases hrefs
      exact ⟨k, rfl, rfl⟩

/-- The references of an operation are those of its two parts. -/
theorem references_binary {op : Operator} {left right : Expr} {start : Int}
    (hrefs : (binary op left right start).references g = .ok refs) :
    ∃ ls rs, left.references g = .ok ls ∧ right.references g = .ok rs ∧
      refs = ls ++ rs := by
  rw [references] at hrefs
  obtain ⟨ls, hl, hrefs⟩ := bind_ok hrefs
  obtain ⟨rs, hr, hrefs⟩ := bind_ok hrefs
  cases hrefs
  exact ⟨ls, rs, hl, hr, rfl⟩

-- =============================================================== success

/-- A successful evaluation has used every reference, and nothing else. -/
theorem run_value (hg : g.Closed Cell.dependencies)
    (h : tree.run (g.source current) functions t = (.ok (.ok v), t')) :
    tree.Sound functions ∧ ∃ refs, tree.references g = .ok refs ∧
      t'.reads = t.reads ++ refs ∧ ∀ k ∈ refs, g.Readable current k := by
  induction tree generalizing t t' v with
  | number value text start =>
      cases h
      exact ⟨trivial, [], rfl, (List.append_nil _).symm, nofun⟩
  | ref cell =>
      obtain ⟨reading, hcell, -, rfl⟩ := run_ref_ok h
      obtain ⟨hname, hread⟩ := Grid.lookupCell_ok hg hcell
      refine ⟨trivial, [reading.index],
        by rw [references, hname]; rfl, rfl, fun k hk => ?_⟩
      rw [List.mem_singleton.mp hk]
      exact hread
  | binary op left right start ihl ihr =>
      rw [run_binary] at h
      obtain ⟨x, y, t₁, hl, hr, happly⟩ := Operator.inTurn_ok h
      obtain ⟨hsoundl, ls, hls, hreadsl, hreadl⟩ := ihl hl
      obtain ⟨hsoundr, rs, hrs, hreadsr, hreadr⟩ := ihr hr
      have hop : ∀ sign, op ≠ .other sign := by
        rintro sign rfl
        cases happly
      refine ⟨⟨hop, hsoundl, hsoundr⟩, ls ++ rs, ?_, ?_, fun k hk => ?_⟩
      · rw [references, hls, hrs]
        rfl
      · rw [hreadsr, hreadsl, List.append_assoc]
      · exact (List.mem_append.mp hk).elim (hreadl k) (hreadr k)
  | aggregate name first last start =>
      obtain ⟨f, reading, hf, hrange, -, rfl⟩ := run_aggregate_ok h
      obtain ⟨hindices, hread⟩ := Grid.lookupRange_ok hg hrange
      have hknown : functions.get? name ≠ none := by
        rw [hf]
        exact Option.some_ne_none f
      exact ⟨hknown, reading.indices, hindices, rfl, hread⟩
  | hole text => cases h

-- ================================================================ failure

/-- What can go wrong in a formula whose references are all in order. -/
def EvalErrorKind.OfValues (kind : EvalErrorKind) : Prop :=
  kind = .divideByZero ∨ kind = .notANumber ∨ kind = .functionError

/-- Of an outcome that is an error it is enough to know what this one is. -/
private theorem ofValues_of_error {e : EvalError}
    (h : EvalErrorKind.OfValues e.kind) (err : EvalError)
    (herr : (.error e : Except EvalError Float) = .error err) :
    EvalErrorKind.OfValues err.kind := by
  cases herr
  exact h

/-- A sign with a meaning makes a value of any two, or divides by zero. -/
private theorem apply_total {op : Operator} (hop : ∀ sign, op ≠ .other sign)
    (x y : Float) (right : Expr) :
    ∃ result, op.apply x y right = .ok result ∧
      ∀ e, result = .error e → EvalErrorKind.OfValues e.kind := by
  rcases op.apply_cases x y right with
    ⟨sign, hsign, -⟩ | ⟨-, -, happly⟩ | ⟨f, -, -, happly⟩
  · exact absurd hsign (hop sign)
  · exact ⟨_, happly, ofValues_of_error (Or.inl rfl)⟩
  · exact ⟨_, happly, by simp⟩

section

variable (hg : g.Closed Cell.dependencies)

include hg

/-- A cell that does not lead back has its number, or holds none. -/
private theorem run_ref_total {cell : CellRef} {k : Int}
    (hname : g.indexOf cell.name = .ok k)
    (hback : ¬ ReflTransGen g.Reads k current) :
    ∃ result t', (ref cell).run (g.source current) functions t =
        (.ok result, t') ∧
      ∀ e, result = .error e → EvalErrorKind.OfValues e.kind := by
  unfold run
  dsimp only
  rw [Grid.source_cell, Grid.lookupCell_of_indexOf hg hname, if_neg hback]
  cases hnum : g.numberAt k with
  | ok x => exact ⟨.ok x, _, rfl, by simp⟩
  | error e =>
      exact ⟨_, _, rfl, ofValues_of_error
        (Or.inr (Or.inl (Grid.kind_of_numberAt hnum)))⟩

/-- A function that is known has its value on cells that do not lead back,
or one of them holds no number, or the function fails. -/
private theorem run_aggregate_total {name : String} {first last : CellRef}
    {start : Int} (hknown : functions.get? name ≠ none)
    (hrefs : indicesOfRange first.name last.name g.numCols = .ok refs)
    (hon : ∀ k ∈ refs, k ∈ g)
    (hback : ∀ k ∈ refs, ¬ ReflTransGen g.Reads k current) :
    ∃ result t', (aggregate name first last start).run (g.source current)
        functions t = (.ok result, t') ∧
      ∀ e, result = .error e → EvalErrorKind.OfValues e.kind := by
  obtain ⟨f, hf⟩ := Option.ne_none_iff_exists'.mp hknown
  unfold run
  dsimp only
  rw [hf]
  dsimp only
  rw [Grid.source_range, Grid.lookupRange_of_noCycle hg hrefs hon hback]
  cases hvalues : refs.mapM g.numberAt with
  | error e =>
      exact ⟨_, _, rfl, ofValues_of_error
        (Or.inr (Or.inl (Grid.kind_of_mapM_numberAt hvalues)))⟩
  | ok values =>
      dsimp only [Except.map]
      cases f values with
      | ok value => exact ⟨_, _, rfl, by simp⟩
      | error e =>
          exact ⟨_, _, rfl, ofValues_of_error (Or.inr (Or.inr rfl))⟩

/-- A sound expression whose references lie on the grid and do not lead back
has a value, or fails because of the values that it meets. -/
theorem run_total (hon : ∀ k ∈ refs, k ∈ g) (hsound : tree.Sound functions)
    (hrefs : tree.references g = .ok refs)
    (hback : ∀ k ∈ refs, ¬ ReflTransGen g.Reads k current) :
    ∃ result t', tree.run (g.source current) functions t = (.ok result, t') ∧
      ∀ e, result = .error e → EvalErrorKind.OfValues e.kind := by
  induction tree generalizing t refs with
  | number value text start => exact ⟨.ok value, t, rfl, by simp⟩
  | ref cell =>
      obtain ⟨k, hname, rfl⟩ := references_ref hrefs
      exact run_ref_total hg hname (hback k List.mem_cons_self)
  | binary op left right start ihl ihr =>
      obtain ⟨ls, rs, hls, hrs, rfl⟩ := references_binary hrefs
      obtain ⟨hop, hsoundl, hsoundr⟩ := hsound
      rw [List.forall_mem_append] at hon hback
      rw [run_binary]
      rcases op.inTurn_cases right (left.run (g.source current) functions)
          (right.run (g.source current) functions) t
        with ⟨-, heq⟩ | ⟨x, t₁, -, ⟨-, heq⟩ | ⟨y, t₂, -, heq⟩⟩
      all_goals rw [heq]
      · exact ihl hon.1 hsoundl hls hback.1
      · exact ihr hon.2 hsoundr hrs hback.2
      · obtain ⟨result, happly, hkind⟩ := apply_total hop x y right
        exact ⟨result, t₂, by rw [happly], hkind⟩
  | aggregate name first last start =>
      exact run_aggregate_total hg hsound hrefs hon hback
  | hole text => exact absurd hsound id

/-- Two grids of one shape that agree on the references of an expression
agree on its outcome, and on the record of its evaluation. -/
theorem run_congr (hon : ∀ k ∈ refs, k ∈ g)
    (hh : h.Closed Cell.dependencies) (hsize : h.size = g.size)
    (hcols : h.numCols = g.numCols) (hrefs : tree.references g = .ok refs)
    (hback : ∀ k ∈ refs,
      (ReflTransGen h.Reads k current ↔ ReflTransGen g.Reads k current))
    (hvalue : ∀ k ∈ refs, (h.cellAt k).value = (g.cellAt k).value) :
    tree.run (h.source current) functions t =
      tree.run (g.source current) functions t := by
  induction tree generalizing t refs with
  | number value text start => rfl
  | ref cell =>
      obtain ⟨k, hname, rfl⟩ := references_ref hrefs
      have hk : k ∈ [k] := List.mem_cons_self
      unfold run
      dsimp only
      rw [Grid.source_cell, Grid.source_cell, Grid.lookupCell_congr hg hh hsize
        hcols hname (hback k hk) (hvalue k hk)]
  | binary op left right start ihl ihr =>
      obtain ⟨ls, rs, hls, hrs, rfl⟩ := references_binary hrefs
      rw [List.forall_mem_append] at hon hback hvalue
      have hl := fun t => @ihl t ls hon.1 hls hback.1 hvalue.1
      have hr := fun t => @ihr t rs hon.2 hrs hback.2 hvalue.2
      unfold run
      simp only [hl, hr]
  | aggregate name first last start =>
      unfold run
      dsimp only
      rw [Grid.source_range, Grid.source_range,
        Grid.lookupRange_congr hg hh hsize hcols hrefs hon hback hvalue]
  | hole text => rfl

end

end Expr

end Worksheet
