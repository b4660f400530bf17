/-
The name that is written for an index, and the other names of the same cell.

Of all spellings of a cell name one is canonical, with a capital and without a
leading zero. It can be made of any other by looking at the text alone
(`canonicalName`), and it is what is written for the position.

Within the width of a grid, positions and indices correspond: an index from zero
on is that of one position, whose row and column are what division by the width
leaves. Names and indices are therefore converted into each other by way of the
position, and nothing is lost but the spelling (`nameOfIndex_indexOfName`).
-/
import Worksheet.Proofs.CellName.Positions

namespace Worksheet

open Text (stripChars)

variable {p q : Position} {digits : List Char} {c : Char} {n : Nat}
  {text name : String} {numCols i : Int} {f : Fault}

-- ============================================================ written form

/-- The digits without a leading zero. -/
def canonicalDigits : List Char → List Char
  | ['0', digit] => [digit]
  | digits => digits

/-- The name as it is written: without blanks, with a capital and without a
leading zero. -/
def canonicalName (text : String) : String :=
  match stripChars text.toList with
  | [] => ""
  | letter :: digits => String.ofList (letter.toUpper :: canonicalDigits digits)

private theorem toUpper_of_letterOf (hn : n < maxCols) (hc : LetterOf n c) :
    c.toUpper = Char.ofNat ('A'.toNat + n) := by
  have hall : ∀ n < maxCols,
      (Char.ofNat ('A'.toNat + n)).toUpper = Char.ofNat ('A'.toNat + n) ∧
        (Char.ofNat ('a'.toNat + n)).toUpper =
          Char.ofNat ('A'.toNat + n) := by
    decide
  rcases hc with rfl | rfl
  · exact (hall n hn).1
  · exact (hall n hn).2

private theorem canonicalDigits_of_digitsOf (hn : n < maxRows)
    (hdigits : DigitsOf n digits) :
    canonicalDigits digits = Nat.toDigits 10 n := by
  have hall : ∀ n < maxRows,
      ∀ digits ∈ [Nat.toDigits 10 n, '0' :: Nat.toDigits 10 n],
      DigitsOf n digits → canonicalDigits digits = Nat.toDigits 10 n := by
    decide
  refine hall n hn digits ?_ hdigits
  rcases hdigits with rfl | ⟨-, rfl⟩ <;> simp

namespace Position

/-- In canonical form, all names of a position are the one that is written for
it. -/
private theorem Named.canonicalName_eq (h : p.Named text) :
    canonicalName text = p.name := by
  obtain ⟨hp, letter, digits, hchars, hletter, hdigits⟩ := h
  unfold canonicalName
  rw [hchars]
  dsimp only
  rw [toUpper_of_letterOf hp.2 hletter, canonicalDigits_of_digitsOf
    hp.1 hdigits]
  rfl

/-- Two positions are not written alike. -/
theorem name_inj (hp : p.Nameable) (hq : q.Nameable) :
    p.name = q.name ↔ p = q := by
  refine ⟨fun h => ?_, congrArg name⟩
  exact Except.ok.inj ((ofName_name hp).symm.trans
    ((congrArg ofName h).trans (ofName_name hq)))

-- ================================================================ indices

section

variable (hcol : (p.col : Int) < numCols)

include hcol

private theorem fdiv_index : (p.index numCols).fdiv numCols = p.row := by
  have hcols : 0 < numCols := by omega
  rw [Int.fdiv_eq_ediv_of_nonneg _ hcols.le, index, add_comm,
    Int.add_mul_ediv_right _ _ hcols.ne',
    Int.ediv_eq_zero_of_lt (Int.natCast_nonneg _) hcol, zero_add]

private theorem fmod_index : (p.index numCols).fmod numCols = p.col := by
  have hcols : 0 < numCols := by omega
  rw [Int.fmod_eq_emod_of_nonneg _ hcols.le, index, add_comm,
    Int.add_mul_emod_self_right, Int.emod_eq_of_lt (Int.natCast_nonneg _) hcol]

/-- An index is named as its position is. -/
private theorem nameOfIndex_index :
    nameOfIndex (p.index numCols) numCols = nameOfPosition p.row p.col := by
  unfold nameOfIndex
  rw [if_neg (Int.not_lt.mpr (index_nonneg hcol)), if_neg (by omega),
    fdiv_index hcol, fmod_index hcol]

/-- Within the width of the grid, each position has an index of its own. -/
theorem index_inj (hcol' : (q.col : Int) < numCols) :
    p.index numCols = q.index numCols ↔ p = q := by
  refine ⟨fun h => ?_, congrArg (index · numCols)⟩
  have hrow := fdiv_index hcol
  have hmod := fmod_index hcol
  rw [h, fdiv_index hcol'] at hrow
  rw [h, fmod_index hcol'] at hmod
  cases p
  cases q
  rw [mk.injEq]
  exact ⟨Int.ofNat_inj.mp hrow.symm, Int.ofNat_inj.mp hmod.symm⟩

end

/-- From zero on, each index is that of a position within the width. -/
private theorem exists_index (hcols : 1 ≤ numCols) (hi : 0 ≤ i) :
    ∃ p : Position, (p.col : Int) < numCols ∧ p.index numCols = i ∧
      (p.row : Int) = i / numCols ∧ (p.col : Int) = i % numCols := by
  have hrow : ((i / numCols).toNat : Int) = i / numCols :=
    Int.toNat_of_nonneg (Int.ediv_nonneg hi (by omega))
  have hcol : ((i % numCols).toNat : Int) = i % numCols :=
    Int.toNat_of_nonneg (Int.emod_nonneg i (by omega))
  refine ⟨⟨(i / numCols).toNat, (i % numCols).toNat⟩, ?_, ?_, hrow, hcol⟩
  · rw [hcol]
    exact Int.emod_lt_of_pos i (by omega)
  · rw [index, hrow, hcol, mul_comm]
    exact Int.mul_ediv_add_emod i numCols

private theorem nameOfPosition_of_not_nameable (hp : ¬ p.Nameable) :
    nameOfPosition p.row p.col = .error (.positionOutOfRange p.row p.col) := by
  unfold nameOfPosition
  rw [if_neg]
  rintro ⟨-, hcol, -, hrow⟩
  exact hp ⟨Int.ofNat_lt.mp hrow, Int.ofNat_lt.mp hcol⟩

/-- An index that is read from a name is that of the position it names. -/
private theorem of_indexOfName (h : indexOfName text numCols = .ok i) :
    ∃ p : Position, p.Named text ∧ (p.col : Int) < numCols ∧
      i = p.index numCols := by
  unfold indexOfName at h
  obtain ⟨p, hp, h⟩ := bind_ok h
  split at h
  · cases h
  · next hcol =>
    cases h
    exact ⟨p, ofName_eq_ok_iff.mp hp, by omega, rfl⟩

end Position

open Position

/-- An index without a name is below zero, or it is that of a position too far
down or to the right. -/
theorem nameOfIndex_eq_error_iff (hcols : 1 ≤ numCols) :
    nameOfIndex i numCols = .error f ↔
      (i < 0 ∧ f = .negativeIndex i) ∨
      (0 ≤ i ∧ (99 < i / numCols ∨ 25 < i % numCols) ∧
        f = .positionOutOfRange (i / numCols) (i % numCols)) := by
  by_cases hi : i < 0
  · rw [nameOfIndex, if_pos hi]
    simp [hi, Int.not_le.mpr hi, eq_comm]
  · obtain ⟨p, hcol, hindex, hrow, hcol'⟩ :=
      exists_index hcols (Int.not_lt.mp hi)
    rw [← hindex, nameOfIndex_index hcol, hindex, ← hrow, ← hcol']
    by_cases hp : p.Nameable
    · rw [nameOfPosition_eq hp]
      obtain ⟨hprow, hpcol⟩ := hp
      simp only [maxRows, maxCols] at hprow hpcol
      simp [hi]
      omega
    · rw [nameOfPosition_of_not_nameable hp]
      simp only [Nameable, maxRows, maxCols, not_and_or] at hp
      simp [hi, Int.not_lt.mp hi, eq_comm]
      omega

/-- A written name is that of a position with this index. -/
private theorem exists_of_nameOfIndex (hcols : 1 ≤ numCols)
    (h : nameOfIndex i numCols = .ok name) :
    ∃ p : Position, p.Nameable ∧ (p.col : Int) < numCols ∧ i = p.index numCols ∧
      name = p.name := by
  have hi : 0 ≤ i := by
    by_contra hneg
    rw [nameOfIndex, if_pos (Int.not_le.mp hneg)] at h
    cases h
  obtain ⟨p, hcol, hindex, -⟩ := exists_index hcols hi
  rw [← hindex, nameOfIndex_index hcol] at h
  by_cases hp : p.Nameable
  · rw [nameOfPosition_eq hp] at h
    exact ⟨p, hp, hcol, hindex.symm, (Except.ok.inj h).symm⟩
  · rw [nameOfPosition_of_not_nameable hp] at h
    cases h

-- ================================================================= result

/-- Names and indices are converted without loss. An index has no name just if
it is below zero or its row or column is beyond the last one that can be named;
otherwise its name has that index again. What is written for the index of a name
is the name in its canonical form, and two names have one index just if these
forms are the same. -/
theorem nameOfIndex_indexOfName (hcols : 1 ≤ numCols) :
    (∀ i f, nameOfIndex i numCols = .error f ↔
      (i < 0 ∧ f = .negativeIndex i) ∨
        (0 ≤ i ∧ (99 < i / numCols ∨ 25 < i % numCols) ∧
          f = .positionOutOfRange (i / numCols) (i % numCols))) ∧
    (∀ i name, nameOfIndex i numCols = .ok name →
      indexOfName name numCols = .ok i) ∧
    (∀ text i, indexOfName text numCols = .ok i →
      nameOfIndex i numCols = .ok (canonicalName text)) ∧
    ∀ text other i j, indexOfName text numCols = .ok i →
      indexOfName other numCols = .ok j →
      (i = j ↔ canonicalName text = canonicalName other) := by
  refine ⟨fun i f => nameOfIndex_eq_error_iff hcols, fun i name h => ?_,
    fun text i h => ?_,
    fun text other i j hi hj => ?_⟩
  · obtain ⟨p, hp, hcol, rfl, rfl⟩ := exists_of_nameOfIndex hcols h
    exact indexOfName_eq (ofName_name hp) hcol
  · obtain ⟨p, hp, hcol, rfl⟩ := of_indexOfName h
    rw [nameOfIndex_index hcol, nameOfPosition_eq hp.1, hp.canonicalName_eq]
  · obtain ⟨p, hp, hcol, rfl⟩ := of_indexOfName hi
    obtain ⟨q, hq, hcol', rfl⟩ := of_indexOfName hj
    rw [index_inj hcol hcol', hp.canonicalName_eq, hq.canonicalName_eq,
      name_inj hp.1 hq.1]

/-- Three columns wide, a small letter and a leading zero do not matter, and the
row after the last one has no name. -/
theorem nameOfIndex_indexOfName_three_columns :
    nameOfIndex 7 3 = .ok "B2" ∧ indexOfName "B2" 3 = .ok 7 ∧
      indexOfName "\tb02 " 3 = .ok 7 ∧
        nameOfIndex 7 3 = .ok (canonicalName "\tb02 ") ∧
      canonicalName "\tb02 " = canonicalName "B2" ∧
      nameOfIndex 300 3 = .error (.positionOutOfRange 100 0) := by
  obtain ⟨herror, hindex, hname, hcanonical⟩ :=
    @nameOfIndex_indexOfName 3 (by decide)
  have hwritten : nameOfIndex 7 3 = .ok "B2" := rfl
  have hread : indexOfName "\tb02 " 3 = .ok 7 := rfl
  have hback := hindex 7 "B2" hwritten
  exact ⟨hwritten, hback, hread, hname "\tb02 " 7 hread,
    (hcanonical "\tb02 " "B2" 7 7 hread hback).mp rfl,
    (herror 300 _).mpr (Or.inr ⟨by decide, Or.inl (by decide), rfl⟩)⟩

end Worksheet
