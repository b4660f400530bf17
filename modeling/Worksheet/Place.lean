/-
Places in a row of things.

An index that is not negative counts from the start of the row, a
negative one from its end: `-1` is the last place. Every other index
denotes no place at all.
-/

namespace Worksheet

/-- The place that an index denotes in a row of `size` things. -/
def place? (size : Nat) (index : Int) : Option (Fin size) :=
  if h : 0 ≤ index ∧ index < size then some ⟨index.toNat, by omega⟩
  else if h : -size ≤ index ∧ index < 0 then
    some ⟨(size + index).toNat, by omega⟩
  else none

/-- The index fits into a signed machine word of 64 bits. No row of things is
so long that an index beyond this could denote a place in it. -/
def fitsWord (index : Int) : Bool :=
  Int64.minValue.toInt ≤ index && index ≤ Int64.maxValue.toInt

/-- From the start, an index is its own place. -/
theorem place?_of_nonneg {size : Nat} {index : Int} (h : 0 ≤ index)
    (h' : index < size) :
    place? size index = some ⟨index.toNat, by omega⟩ := by
  simp [place?, h, h']

/-- A place is denoted by its count from the start and by its count from the
end. -/
theorem place?_eq_some_iff {size : Nat} {index : Int} {k : Fin size} :
    place? size index = some k ↔ index = k ∨ index = (k : Int) - size := by
  have hk := k.isLt
  unfold place?
  split
  · rw [Option.some_inj, Fin.ext_iff]
    dsimp only
    omega
  · split
    · rw [Option.some_inj, Fin.ext_iff]
      dsimp only
      omega
    · simp only [reduceCtorEq, false_iff]
      omega

/-- No place is denoted exactly outside `-size` to `size - 1`. -/
theorem place?_eq_none_iff {size : Nat} {index : Int} :
    place? size index = none ↔ index < -size ∨ (size : Int) ≤ index := by
  unfold place?
  split
  · simp only [reduceCtorEq, false_iff]; omega
  · split
    · simp only [reduceCtorEq, false_iff]; omega
    · simp only [true_iff]; omega

end Worksheet
