/-
One step of an evaluation.

What an operation, a cell or a function comes to, told once for each, so
that no proof about evaluations has to open their definition again. An
operation goes as far as its parts do (`Operator.inTurn_cases`), and then it
has a value unless its sign has no meaning or it divides by zero
(`Operator.apply_cases`).
-/
import Worksheet.Expr.Eval

namespace Worksheet

-- ============================================================== operators

/-- The operation on two values, without a look at the divisor. -/
def Operator.arithmetic? : Operator → Option (Float → Float → Float)
  | .add => some (· + ·)
  | .sub => some (· - ·)
  | .mul => some (· * ·)
  | .div => some (· / ·)
  | .other _ => none

/-- An operation on two values has the value that its sign says, unless the
sign says nothing or the operation divides by zero. -/
theorem Operator.apply_cases (op : Operator) (x y : Float) (right : Expr) :
    (∃ sign, op = .other sign ∧
      op.apply x y right = .error (.unknownOperator sign)) ∨
    (op = .div ∧ (y == 0) = true ∧
      op.apply x y right = .ok (.error ⟨.divideByZero, right, none, ""⟩)) ∨
    ∃ f, op.arithmetic? = some f ∧ (op = .div → (y == 0) = false) ∧
      op.apply x y right = .ok (.ok (f x y)) := by
  cases op with
  | other sign => exact Or.inl ⟨sign, rfl, rfl⟩
  | div =>
      cases hzero : (y == 0) with
      | true => exact Or.inr (Or.inl ⟨rfl, rfl, if_pos hzero⟩)
      | false =>
          refine Or.inr (Or.inr ⟨_, rfl, fun _ => rfl, if_neg ?_⟩)
          simp [hzero]
  | add | sub | mul => exact Or.inr (Or.inr ⟨_, rfl, nofun, rfl⟩)

-- ================================================================= turns

/-- Goes through the two parts in turn and applies the operation to their
values. The first part without a value ends it. -/
def Operator.inTurn (op : Operator) (right : Expr)
    (first second : Trace → Outcome × Trace) (t : Trace) : Outcome × Trace :=
  match first t with
  | (.ok (.ok x), t) =>
    match second t with
    | (.ok (.ok y), t) => (op.apply x y right, t)
    | failed => failed
  | failed => failed

theorem Operator.inTurn_cases (op : Operator) (right : Expr)
    (first second : Trace → Outcome × Trace) (t : Trace) :
    ((∀ x t₁, first t ≠ (.ok (.ok x), t₁)) ∧
      op.inTurn right first second t = first t) ∨
    ∃ x t₁, first t = (.ok (.ok x), t₁) ∧
      (((∀ y t₂, second t₁ ≠ (.ok (.ok y), t₂)) ∧
        op.inTurn right first second t = second t₁) ∨
      ∃ y t₂, second t₁ = (.ok (.ok y), t₂) ∧
        op.inTurn right first second t = (op.apply x y right, t₂)) := by
  unfold inTurn
  rcases first t with ⟨f | (e | x), t₁⟩
  · exact Or.inl ⟨by simp, rfl⟩
  · exact Or.inl ⟨by simp, rfl⟩
  · refine Or.inr ⟨x, t₁, rfl, ?_⟩
    dsimp only
    rcases second t₁ with ⟨f | (e | y), t₂⟩
    · exact Or.inl ⟨by simp, rfl⟩
    · exact Or.inl ⟨by simp, rfl⟩
    · exact Or.inr ⟨y, t₂, rfl, rfl⟩

/-- An operation with a value is one on the values of its parts. -/
theorem Operator.inTurn_ok {op : Operator} {right : Expr}
    {first second : Trace → Outcome × Trace} {t t' : Trace} {v : Float}
    (h : op.inTurn right first second t = (.ok (.ok v), t')) :
    ∃ x y t₁, first t = (.ok (.ok x), t₁) ∧ second t₁ = (.ok (.ok y), t') ∧
      op.apply x y right = .ok (.ok v) := by
  rcases op.inTurn_cases right first second t with
    ⟨hnot, heq⟩ | ⟨x, t₁, hx, ⟨hnot, heq⟩ | ⟨y, t₂, hy, heq⟩⟩
  · exact absurd (heq.symm.trans h) (hnot v t')
  · exact absurd (heq.symm.trans h) (hnot v t')
  · obtain ⟨happly, rfl⟩ := Prod.mk.inj (heq.symm.trans h)
    exact ⟨x, y, t₁, hx, hy, happly⟩

namespace Expr

variable {source : Source} {functions : Registry} {t t' : Trace} {v : Float}
  {op : Operator} {left right : Expr} {start : Int}

/-- An operation is evaluated by going through its two parts. -/
theorem run_binary : (binary op left right start).run source functions =
    op.inTurn right (left.run source functions)
      (right.run source functions) := by
  funext t
  unfold run Operator.inTurn
  rfl

-- ================================================================= values

/-- A cell has the value that is found for it. -/
theorem run_ref_ok {cell : CellRef}
    (h : (ref cell).run source functions t = (.ok (.ok v), t')) :
    ∃ reading, source.cell t.requests cell.name = .ok (.ok reading) ∧
      v = reading.value ∧
      t' = (t.ask (.cell cell.name)).use [reading.index] := by
  unfold run at h
  dsimp only at h
  rcases hcell : source.cell t.requests cell.name with f | (e | reading)
  · rw [hcell] at h
    cases h
  · rw [hcell] at h
    cases h
  · rw [hcell] at h
    cases h
    exact ⟨reading, rfl, rfl, rfl⟩

/-- A function with a value was applied to the values that were found. -/
theorem run_aggregate_ok {name : String} {first last : CellRef}
    (h : (aggregate name first last start).run source functions t =
      (.ok (.ok v), t')) :
    ∃ f reading, functions.get? name = some f ∧
      source.range t.requests first.name last.name = .ok (.ok reading) ∧
      f reading.values = .ok v ∧
      t' = (t.ask (.range first.name last.name)).use reading.indices := by
  unfold run at h
  dsimp only at h
  cases hf : functions.get? name with
  | none =>
      rw [hf] at h
      cases h
  | some f =>
      rw [hf] at h
      dsimp only at h
      rcases hrange : source.range t.requests first.name last.name
        with f | (e | reading)
      · rw [hrange] at h
        cases h
      · rw [hrange] at h
        cases h
      · rw [hrange] at h
        dsimp only at h
        cases hvalue : f reading.values with
        | error e =>
            rw [hvalue] at h
            cases h
        | ok value =>
            rw [hvalue] at h
            cases h
            exact ⟨f, reading, rfl, rfl, hvalue, rfl⟩

end Expr

end Worksheet
