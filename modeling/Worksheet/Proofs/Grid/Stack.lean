/-
A grid on a limited stack.

Only the evaluation of formulas knows of the stack, and everything that is
done to a grid is told how formulas are evaluated. So what is cut short is
found once for each operation, for any two evaluators of which the one is
cut short where the other is not.

A content fits if its formula does (`Settings.Fits`); this is a matter of
the content and the settings, not of the grid. Contents that fit are
evaluated, put in and computed again as without a limit. A pass keeps all
contents, so if they fit at its beginning they fit to its end.
-/
import Worksheet.Proofs.Expr.Stack
import Worksheet.Proofs.Grid.History
import Worksheet.Stack

namespace Worksheet

open Relation (TransGen)

variable {g : Grid} {s : Settings} {content formula : String} {i root : Int}
  {stack : Nat} {new : Cell} {e : Evaluation} {p : Propagation}
  {order : List Int}

-- =============================================================== contents

/-- The stack has room for the formula in a content, if there is one to be
evaluated. -/
def Settings.Fits (s : Settings) (stack : Nat) (content : String) : Prop :=
  ∀ formula, s.body? content = some formula →
    Expr.Fits stack s.registry.names s.maxLength formula

/-- Nothing has to be read of an empty content. -/
theorem Settings.fits_empty : s.Fits stack "" := by
  intro formula hbody
  rw [Grid.body?_empty] at hbody
  cases hbody

/-- Under a limit of length every content fits into a stack that is three
times as large, too long ones included: they are not read at all. -/
theorem Settings.fits_of_maxLength {n : Nat} (hn : s.maxLength = some n)
    (hstack : 3 * (n + 1) ≤ stack) : s.Fits stack content := by
  intro formula hbody
  have hfits : ∀ tokens, tokenize s.registry.names s.maxLength formula =
      .ok (.ok tokens) → Expr.Fits stack s.registry.names s.maxLength
        formula := by
    intro tokens htokens
    rw [hn] at htokens
    have := length_le_of_tokenize htokens
    exact Expr.fits_of_length (by omega)
  refine ⟨fun tokens h => (hfits tokens h).reading tokens h, fun tree h => ?_⟩
  obtain ⟨tokens, htokens, -⟩ := Expr.ofText_eq_ok_iff.mp h
  exact (hfits tokens htokens).evaluation tree h

namespace Grid

-- =============================================================== formulas

/-- A formula that fits has the value that it has without a limit. -/
theorem evaluateFormulaWithin_of_fits
    (h : Expr.Fits stack s.registry.names s.maxLength formula) :
    evaluateFormulaWithin stack g i formula s =
      g.evaluateFormula i formula s := by
  unfold evaluateFormulaWithin
  dsimp only
  rw [Expr.ofTextWithin_of_reading h.reading]
  rcases hparse : Expr.ofText s.registry.names s.maxLength formula
    with f | (err | tree)
  · rw [evaluateFormula_of_fault hparse]
    rfl
  · rw [evaluateFormula_of_error hparse]
    rfl
  · rw [evaluateFormula_of_tree hparse]
    show (tree.evaluateWithin stack (g.source i) s.registry >>= _) = _
    rw [Expr.evaluateWithin_of_height (h.evaluation tree hparse)]
    cases (tree.evaluate (g.source i) s.registry).1 <;> rfl

/-- Any other has that value too, or is cut short. -/
theorem cutShort_evaluateFormulaWithin :
    CutShort (evaluateFormulaWithin stack g i formula s)
      (g.evaluateFormula i formula s) := by
  unfold evaluateFormulaWithin evaluateFormula
  dsimp only
  rcases Expr.ofTextWithin_cases stack s.registry.names s.maxLength formula
    with hcut | ⟨-, heq⟩
  · rw [hcut]
    exact Or.inl rfl
  · rw [heq]
    refine (CutShort.refl _).bind fun result => ?_
    cases result with
    | error err => exact .refl _
    | ok tree => exact Expr.cutShort_evaluateWithin.bind fun _ => .refl _

/-- One that has a value here fits. -/
theorem fits_of_evaluateFormulaWithin
    (h : evaluateFormulaWithin stack g i formula s = .ok (.ok e)) :
    Expr.Fits stack s.registry.names s.maxLength formula := by
  unfold evaluateFormulaWithin at h
  dsimp only at h
  rcases Expr.ofTextWithin_cases stack s.registry.names s.maxLength formula
    with hcut | ⟨hreading, heq⟩
  · rw [hcut] at h
    cases h
  · rw [heq] at h
    refine ⟨hreading, fun tree hparse => ?_⟩
    rw [hparse] at h
    obtain ⟨_, hread, h⟩ := bind_ok h
    cases hread
    obtain ⟨result, heval, h⟩ := bind_ok h
    cases result with
    | error err => cases h
    | ok value => exact Expr.height_le_of_evaluateWithin heval

-- ============================================================= operations

section

variable {formulas formulas' : Evaluator}
  (hcut : ∀ g i formula s,
    CutShort (formulas g i formula s) (formulas' g i formula s))

include hcut

private theorem cutShort_evaluateBy :
    CutShort (g.evaluateBy formulas i content s)
      (g.evaluateBy formulas' i content s) := by
  unfold evaluateBy
  refine (CutShort.refl _).bind fun cell => ?_
  cases s.formula? content with
  | none => exact .refl _
  | some formula =>
      dsimp only
      split
      · exact .refl _
      · exact (hcut g i formula s).bind fun _ => .refl _

theorem cutShort_editBy :
    CutShort (g.editBy formulas i content s)
      (g.editBy formulas' i content s) := by
  unfold editBy
  exact (cutShort_evaluateBy hcut).bind fun _ => .refl _

private theorem cutShort_recomputeBy :
    CutShort (p.recomputeBy formulas s i) (p.recomputeBy formulas' s i) := by
  unfold Propagation.recomputeBy
  refine (CutShort.refl _).bind fun old => ?_
  exact (cutShort_evaluateBy hcut).bind fun _ => .refl _

theorem cutShort_propagateBy :
    CutShort (g.propagateBy formulas root s)
      (g.propagateBy formulas' root s) := by
  unfold propagateBy
  refine (CutShort.refl _).bind fun order => ?_
  generalize (⟨g, order, [], []⟩ : Propagation) = p
  induction order generalizing p with
  | nil => exact .refl _
  | cons i order ih =>
      rw [List.foldlM_cons, List.foldlM_cons]
      exact (cutShort_recomputeBy hcut).bind ih

end

-- ================================================================= fitting

/-- A content that fits is evaluated as without a limit. -/
theorem evaluateBy_of_fits (h : s.Fits stack content) :
    g.evaluateBy (evaluateFormulaWithin stack) i content s =
      g.evaluate i content s := by
  unfold evaluate
  cases hcell : g.cell i with
  | error f =>
      unfold evaluateBy
      rw [hcell]
      rfl
  | ok c =>
      cases hbody : s.body? content with
      | none =>
          rw [evaluateBy_constant hcell hbody, evaluateBy_constant hcell hbody]
      | some formula =>
          rw [evaluateBy_formula hcell hbody, evaluateBy_formula hcell hbody,
            evaluateFormulaWithin_of_fits (h formula hbody)]

/-- A content that is accepted fits. -/
theorem fits_of_evaluateBy
    (h : g.evaluateBy (evaluateFormulaWithin stack) i content s =
      .ok (.ok new)) : s.Fits stack content := by
  rcases evaluateBy_eq_ok h with ⟨hnone, -⟩ | ⟨formula, e, hbody, hvalue, -⟩
  · intro formula hbody
    cases hnone.symm.trans hbody
  · intro formula' hbody'
    cases hbody.symm.trans hbody'
    exact fits_of_evaluateFormulaWithin hvalue

theorem editBy_of_fits (h : s.Fits stack content) :
    g.editBy (evaluateFormulaWithin stack) i content s =
      g.edit i content s := by
  unfold edit editBy
  rw [evaluateBy_of_fits h]
  rfl

/-- A cell whose content fits is computed again as without a limit. -/
theorem recomputeBy_of_fits (hi : i ∈ p.grid)
    (h : s.Fits stack (p.grid.cellAt i).content) :
    p.recomputeBy (evaluateFormulaWithin stack) s i = p.recompute s i := by
  unfold Propagation.recompute Propagation.recomputeBy
  rw [cell_of_mem hi]
  show (p.grid.evaluateBy (evaluateFormulaWithin stack) i _ s >>= _) =
    (p.grid.evaluate i (p.grid.cellAt i).content s >>= _)
  rw [evaluateBy_of_fits h]

/-- The contents of all cells fit. -/
def Fitting (g : Grid) (s : Settings) (stack : Nat) : Prop :=
  ∀ i ∈ g, s.Fits stack (g.cellAt i).content

/-- A pass over contents that fit is as without a limit. -/
theorem foldlM_of_fitting (hp : p.grid.Faithful s)
    (hfit : p.grid.Fitting s stack) (hon : ∀ i ∈ order, i ∈ p.grid) :
    order.foldlM (Propagation.recomputeBy (evaluateFormulaWithin stack) s) p =
      order.foldlM (Propagation.recompute s) p := by
  induction order generalizing p with
  | nil => rfl
  | cons i order ih =>
      have hi := hon i List.mem_cons_self
      obtain ⟨mid, hmid, hgrid⟩ := hp.recompute hi
      have hr := revalued_refresh hp hi
      rw [← hgrid] at hr
      rw [List.foldlM_cons, List.foldlM_cons,
        recomputeBy_of_fits hi (hfit i hi), hmid]
      refine ih (hr.faithful hp) (fun k hk => ?_) fun k hk =>
        hr.mem.mpr (hon k (List.mem_cons_of_mem _ hk))
      have hk' := hr.mem.mp hk
      rw [hr.content hk']
      exact hfit k hk'

/-- So is a propagation. -/
theorem propagateBy_of_fitting (hg : g.Faithful s) (hroot : root ∈ g)
    (hfit : g.Fitting s stack) :
    g.propagateBy (evaluateFormulaWithin stack) root s =
      g.propagate root s := by
  obtain ⟨order, heq, -, hmem, -⟩ := hg.order_spec hroot
  rw [propagateBy_of_order heq, propagate_of_order heq]
  exact foldlM_of_fitting hg hfit fun i hi => mem_of_path ((hmem i).mp hi)

end Grid

end Worksheet
