/-
Positions: the places that cell names denote.

A position that is read from a name has a row that two digits can write and a
column that has a letter. It is spelled with a capital or a small letter, and a
row of one digit with a zero in front or without; these spellings are exactly
the names that are read as the position (`ofName_eq_ok_iff`). The name that is
written for it is one of them, so what is known of names can be said of
positions.

A rectangle of indices numbers a rectangle of positions row by row. Its last
position is the corner with the larger row and the larger column, and no index
in it is larger than that of the corner: whether a rectangle reaches past the
end of a grid can be seen from its last index alone (`exists_outside_iff`).
-/
import Worksheet.CellName
import Worksheet.Proofs.Grid.Cells
import Worksheet.Proofs.Token.Tiling

namespace Worksheet

open Text (isBlank stripChars isAlpha_iff_toNat)

variable {a b p q : Position} {cs digits : List Char} {c : Char} {n : Nat}
  {first last text : String} {numCols size i : Int} {indices : List Int}
  {f : Fault}

-- ================================================================ reading

/-- Two digits write a number below a hundred. -/
private theorem natOfDigits_lt (hdigits : ∀ d ∈ digits, d.isDigit = true)
    (hlen : digits.length ≤ 2) :
    natOfDigits digits < maxRows := by
  have hvalue : ∀ d ∈ digits, digitValue d ≤ 9 := by
    intro d hd
    have h9 : '9'.toNat = 57 := rfl
    have h0 : '0'.toNat = 48 := rfl
    have := (Char.isDigit_iff_toNat.mp (hdigits d hd)).2
    unfold digitValue
    omega
  match digits with
  | [] => decide
  | [d] =>
      have := hvalue d (by simp)
      simp only [natOfDigits, List.foldl_cons, List.foldl_nil, maxRows]
      omega
  | [d, e] =>
      have := hvalue d (by simp)
      have := hvalue e (by simp)
      simp only [natOfDigits, List.foldl_cons, List.foldl_nil, maxRows]
      omega
  | _ :: _ :: _ :: _ =>
      simp only [List.length_cons] at hlen
      omega

/-- Every letter stands for a column, in either case. -/
private theorem columnOf_lt (hc : c.isAlpha = true) : columnOf c < maxCols := by
  have hA : 'A'.toNat = 65 := rfl
  have hcode := isAlpha_iff_toNat.mp hc
  have hascii : c.toNat < 0x80 := by omega
  revert hc
  refine Text.forall_ascii (P := fun c => c.isAlpha = true →
    columnOf c < maxCols) ?_ hascii
  decide

/-- What no blank character is part of has none to strip off. -/
theorem stripChars_eq_self (h : ∀ c ∈ cs, isBlank c = false) :
    stripChars cs = cs := by
  have hkeep : ∀ l : List Char, (∀ c ∈ l, isBlank c = false) →
      l.dropWhile isBlank = l := by
    intro l hl
    rw [List.dropWhile_eq_self_iff]
    intro hlen hblank
    rw [hl _ (List.getElem_mem hlen)] at hblank
    cases hblank
  unfold stripChars
  rw [hkeep cs h, hkeep cs.reverse fun c hc => h c (List.mem_reverse.mp hc),
    List.reverse_reverse]

-- ============================================================== spellings

/-- One letter and one or two digits, blanks around them aside. -/
def IsCellName (text : String) : Prop :=
  ∃ letter digits, stripChars text.toList = letter :: digits ∧
    letter.isAlpha = true ∧ Digits digits ∧ digits.length ≤ 2

/-- The letter of a column, as a capital or a small one. -/
def LetterOf (col : Nat) (c : Char) : Prop :=
  c = Char.ofNat ('A'.toNat + col) ∨ c = Char.ofNat ('a'.toNat + col)

/-- The decimal digits of a row. A single one may have a zero in front. -/
def DigitsOf (row : Nat) (digits : List Char) : Prop :=
  digits = Nat.toDigits 10 row ∨ row < 10 ∧ digits = '0' :: Nat.toDigits 10 row

instance {col : Nat} : Decidable (LetterOf col c) :=
  inferInstanceAs (Decidable (_ ∨ _))

instance {row : Nat} : Decidable (DigitsOf row digits) :=
  inferInstanceAs (Decidable (_ ∨ _))

/-- Every letter is one of a column, and each column has two. -/
private theorem letterOf_iff (hn : n < maxCols) :
    LetterOf n c ↔ c.isAlpha = true ∧ columnOf c = n := by
  constructor
  · have hcapital : ∀ n < maxCols, (Char.ofNat ('A'.toNat + n)).isAlpha = true ∧
        columnOf (Char.ofNat ('A'.toNat + n)) = n := by decide
    have hsmall : ∀ n < maxCols, (Char.ofNat ('a'.toNat + n)).isAlpha = true ∧
        columnOf (Char.ofNat ('a'.toNat + n)) = n := by decide
    rintro (rfl | rfl)
    · exact hcapital n hn
    · exact hsmall n hn
  · rintro ⟨hletter, rfl⟩
    have hcode := isAlpha_iff_toNat.mp hletter
    have hascii : c.toNat < 0x80 := by omega
    revert hletter
    exact Text.forall_ascii (P := fun c => c.isAlpha = true →
      LetterOf (columnOf c) c) (by decide) hascii

/-- A decimal digit is the character of its value. -/
private theorem exists_digitChar (hc : c.isDigit = true) :
    ∃ n < 10, c = Nat.digitChar n := by
  have h9 : '9'.toNat = 57 := rfl
  have hascii : c.toNat < 0x80 := by
    have := (Char.isDigit_iff_toNat.mp hc).2
    omega
  revert hc
  exact Text.forall_ascii (P := fun c => c.isDigit = true →
    ∃ n < 10, c = Nat.digitChar n) (by decide) hascii

/-- One or two digits are digits of the number that they write. -/
private theorem digitsOf_iff (hn : n < maxRows) :
    DigitsOf n digits ↔
      Digits digits ∧ digits.length ≤ 2 ∧ natOfDigits digits = n := by
  constructor
  · have hall : ∀ n < maxRows,
        ∀ digits ∈ [Nat.toDigits 10 n, '0' :: Nat.toDigits 10 n],
        (DigitsOf n digits → isDigits digits = true ∧ digits.length ≤ 2 ∧
          natOfDigits digits = n) := by decide
    intro hdigits
    rw [← isDigits_iff]
    refine hall n hn digits ?_ hdigits
    rcases hdigits with rfl | ⟨-, rfl⟩ <;> simp
  · rintro ⟨⟨hne, hdigits⟩, hlen, rfl⟩
    match digits with
    | [] => exact absurd rfl hne
    | [d] =>
        obtain ⟨a, ha, rfl⟩ := exists_digitChar (hdigits d (by simp))
        have hall : ∀ a < 10,
            DigitsOf (natOfDigits [Nat.digitChar a]) [Nat.digitChar a] := by
          decide
        exact hall a ha
    | [d, e] =>
        obtain ⟨a, ha, rfl⟩ := exists_digitChar (hdigits d (by simp))
        obtain ⟨b, hb, rfl⟩ := exists_digitChar (hdigits e (by simp))
        have hall : ∀ a < 10, ∀ b < 10, DigitsOf
          (natOfDigits [Nat.digitChar a, Nat.digitChar b])
            [Nat.digitChar a, Nat.digitChar b] := by decide
        exact hall a ha b hb
    | _ :: _ :: _ :: _ =>
        simp only [List.length_cons] at hlen
        omega

namespace Position

-- ================================================================== names

/-- The index of a position in a grid of the given width. -/
def index (p : Position) (numCols : Int) : Int :=
  p.row * numCols + p.col

theorem index_nonneg (hcol : (p.col : Int) < numCols) :
    0 ≤ p.index numCols := by
  have hrow : 0 ≤ (p.row : Int) * numCols :=
    Int.mul_nonneg (by omega) (by omega)
  unfold index
  omega

/-- The row can be written with two digits, and the column has a letter. -/
def Nameable (p : Position) : Prop :=
  p.row < maxRows ∧ p.col < maxCols

/-- The written name of a position. -/
def name (p : Position) : String :=
  String.ofList (Char.ofNat ('A'.toNat + p.col) :: Nat.toDigits 10 p.row)

theorem nameOfPosition_eq (hp : p.Nameable) :
    nameOfPosition p.row p.col = .ok p.name := by
  unfold nameOfPosition
  rw [if_pos ⟨Int.natCast_nonneg _, Int.ofNat_lt.mpr hp.2, Int.natCast_nonneg _,
    Int.ofNat_lt.mpr hp.1⟩]
  rfl

/-- The text is a name of the position: a letter of its column and digits of its
row, blanks around them aside. -/
def Named (p : Position) (text : String) : Prop :=
  p.Nameable ∧ ∃ letter digits, stripChars text.toList = letter :: digits ∧
    LetterOf p.col letter ∧ DigitsOf p.row digits

/-- The characters that name a position are a letter of its column and digits of
its row. -/
private theorem ofChars?_eq_some_iff : ofChars? cs = some p ↔
    p.Nameable ∧ ∃ letter digits, cs = letter :: digits ∧
      LetterOf p.col letter ∧ DigitsOf p.row digits := by
  constructor
  · intro h
    obtain ⟨letter, digits, rfl, hletter, hne, hdigits, hlen⟩ :=
      isSome_ofChars?_iff.mp (by rw [h]; rfl)
    rw [ofChars?,
      if_pos (by simpa [isDigits, hletter, hne, hlen] using hdigits)] at h
    cases h
    have hrow := natOfDigits_lt hdigits hlen
    have hcol := columnOf_lt hletter
    exact ⟨⟨hrow, hcol⟩, letter, digits, rfl, (letterOf_iff hcol).mpr
      ⟨hletter, rfl⟩, (digitsOf_iff hrow).mpr ⟨⟨hne, hdigits⟩, hlen, rfl⟩⟩
  · rintro ⟨hp, letter, digits, rfl, hletter, hdigits⟩
    obtain ⟨hletter, hcol⟩ := (letterOf_iff hp.2).mp hletter
    obtain ⟨hdigits, hlen, hrow⟩ := (digitsOf_iff hp.1).mp hdigits
    rw [ofChars?, hletter, isDigits_iff.mpr hdigits, decide_eq_true hlen,
      hcol, hrow]
    rfl

/-- The names of a position are exactly the texts that are read as it. -/
theorem ofName_eq_ok_iff : ofName text = .ok p ↔ p.Named text := by
  rw [Named, ← ofChars?_eq_some_iff, ofName]
  cases ofChars? (stripChars text.toList) with
  | none => simp
  | some q => simp

/-- A text names one position at most. -/
theorem Named.unique (hp : p.Named text) (hq : q.Named text) : p = q :=
  Except.ok.inj ((ofName_eq_ok_iff.mpr hp).symm.trans (ofName_eq_ok_iff.mpr hq))

/-- A cell name is a name of some position. -/
theorem isCellName_iff : IsCellName text ↔ ∃ p : Position, p.Named text := by
  have hname : IsCellName text ↔
      (ofChars? (stripChars text.toList)).isSome = true := by
    rw [isSome_ofChars?_iff]
    simp only [IsCellName, Digits, and_assoc]
  rw [hname, Option.isSome_iff_exists]
  exact exists_congr fun p => ofChars?_eq_some_iff

/-- What is no cell name is reported as such, and nothing else is. -/
theorem ofName_eq_error_iff : ofName text = .error f ↔
    ¬ IsCellName text ∧ f = .notACellName text := by
  rw [isCellName_iff]
  simp only [← ofName_eq_ok_iff]
  unfold ofName
  cases ofChars? (stripChars text.toList) with
  | none => simp [eq_comm]
  | some p => simp

/-- A written name is read as the position that it was written for. -/
theorem ofName_name (hp : p.Nameable) : ofName p.name = .ok p := by
  have hchars : ofChars? p.name.toList = some p := ofChars?_eq_some_iff.mpr
    ⟨hp, _, _, String.toList_ofList, Or.inl rfl, Or.inl rfl⟩
  have hblank : ∀ c ∈ p.name.toList, isBlank c = false := fun c hc =>
    isBlank_of_isRunChar (isRunChar_of_cellName (by rw [hchars]; rfl) c hc)
  unfold ofName
  rw [stripChars_eq_self hblank, hchars]

/-- What is read from a name can be written again. -/
theorem nameable_of_ofName (h : ofName text = .ok p) : p.Nameable :=
  (ofName_eq_ok_iff.mp h).1

/-- The index of a named cell is that of its position, if there is such a
column. -/
theorem indexOfName_eq (h : ofName text = .ok p)
    (hcol : (p.col : Int) < numCols) :
    indexOfName text numCols = .ok (p.index numCols) := by
  unfold indexOfName
  rw [h]
  exact if_neg (by omega)

end Position

-- ============================================================= rectangles

/-- The positions of the rectangle that has these two as opposite corners, row
by row. -/
def positions (a b : Position) : List Position :=
  (between a.row b.row).flatMap fun row => (between a.col b.col).map fun col =>
    ⟨row, col⟩

/-- The corner with the larger row and the larger column. -/
def farCorner (a b : Position) : Position :=
  ⟨max a.row b.row, max a.col b.col⟩

private theorem cast_col_farCorner :
    ((farCorner a b).col : Int) = max (a.col : Int) b.col := by
  show ((max a.col b.col : Nat) : Int) = _
  omega

theorem mem_positions : p ∈ positions a b ↔
    (min a.row b.row ≤ p.row ∧ p.row ≤ max a.row b.row) ∧
      min a.col b.col ≤ p.col ∧ p.col ≤ max a.col b.col := by
  unfold positions
  rw [List.mem_flatMap]
  constructor
  · rintro ⟨row, hrow, hp⟩
    obtain ⟨col, hcol, rfl⟩ := List.mem_map.mp hp
    exact ⟨mem_between.mp hrow, mem_between.mp hcol⟩
  · rintro ⟨hrow, hcol⟩
    exact ⟨p.row, mem_between.mpr hrow, List.mem_map.mpr
      ⟨p.col, mem_between.mpr hcol, rfl⟩⟩

/-- No position of a rectangle lies beyond the far corner. -/
theorem le_farCorner (hp : p ∈ positions a b) :
    (p.row : Int) ≤ (farCorner a b).row ∧
    (p.col : Int) ≤ (farCorner a b).col := by
  obtain ⟨⟨-, hrow⟩, -, hcol⟩ := mem_positions.mp hp
  exact ⟨Int.ofNat_le.mpr hrow, Int.ofNat_le.mpr hcol⟩

/-- All positions between two that have names have names. -/
theorem nameable_of_mem_positions (ha : a.Nameable) (hb : b.Nameable)
    (hp : p ∈ positions a b) :
    p.Nameable := by
  obtain ⟨⟨-, hrow⟩, -, hcol⟩ := mem_positions.mp hp
  exact ⟨Nat.lt_of_le_of_lt hrow (Nat.max_lt.mpr ⟨ha.1, hb.1⟩),
    Nat.lt_of_le_of_lt hcol (Nat.max_lt.mpr ⟨ha.2, hb.2⟩)⟩

/-- A rectangle numbers its positions in their order. -/
private theorem rectangle_eq : rectangle a b numCols =
    (positions a b).map (·.index numCols) := by
  unfold rectangle positions
  rw [List.map_flatMap]
  simp only [List.map_map]
  rfl

theorem indicesOfRange_eq (ha : Position.ofName first = .ok a)
    (hb : Position.ofName last = .ok b)
    (hcol : ((farCorner a b).col : Int) < numCols) :
    indicesOfRange first last numCols =
      .ok ((positions a b).map (·.index numCols)) := by
  unfold indicesOfRange
  rw [ha, hb, ← rectangle_eq]
  refine if_neg ?_
  rw [cast_col_farCorner] at hcol
  omega

/-- A rectangle that has indices lies between two named positions, and the grid
is wide enough. -/
theorem indicesOfRange_ok
    (h : indicesOfRange first last numCols = .ok indices) :
    ∃ a b, Position.ofName first = .ok a ∧ Position.ofName last = .ok b ∧
      ((farCorner a b).col : Int) < numCols ∧
      indices = (positions a b).map (·.index numCols) := by
  unfold indicesOfRange at h
  obtain ⟨a, ha, h⟩ := bind_ok h
  obtain ⟨b, hb, h⟩ := bind_ok h
  split at h
  · cases h
  · next hcol =>
    cases h
    refine ⟨a, b, ha, hb, ?_, rectangle_eq⟩
    rw [cast_col_farCorner]
    omega

-- ============================================================ its last one

private theorem getLast?_between (n m : Nat) :
    (between n m).getLast? = some (max n m) := by
  unfold between
  rw [List.getLast?_range', if_neg (by omega)]
  congr 1
  omega

/-- The last position of a rectangle is its far corner. -/
theorem getLast?_positions :
    (positions a b).getLast? = some (farCorner a b) := by
  obtain ⟨rows, hrows⟩ := List.getLast?_eq_some_iff.mp
    (getLast?_between a.row b.row)
  unfold positions
  rw [hrows, List.flatMap_append, List.flatMap_singleton]
  obtain ⟨cols, hcols⟩ := List.getLast?_eq_some_iff.mp
    (getLast?_between a.col b.col)
  rw [hcols, List.map_append, List.map_singleton, ← List.append_assoc]
  exact List.getLast?_concat

/-- No position of a rectangle has a larger index than the far corner. -/
private theorem index_le_farCorner (hcols : 0 ≤ numCols)
    (hp : p ∈ positions a b) :
    p.index numCols ≤ (farCorner a b).index numCols := by
  obtain ⟨hrow, hcol⟩ := le_farCorner hp
  have hmul : (p.row : Int) * numCols ≤ (farCorner a b).row * numCols :=
    Int.mul_le_mul_of_nonneg_right hrow hcols
  unfold Position.index
  omega

/-- The last index of a rectangle alone tells whether one of them is too
large. -/
theorem exists_outside_iff (h : indicesOfRange first last numCols = .ok indices)
    (hlast : indices.getLast? = some i) :
    (∃ k ∈ indices, size ≤ k) ↔ size ≤ i := by
  obtain ⟨a, b, -, -, hcol, rfl⟩ := indicesOfRange_ok h
  rw [List.getLast?_map, getLast?_positions] at hlast
  cases hlast
  constructor
  · rintro ⟨k, hk, hsize⟩
    obtain ⟨p, hp, rfl⟩ := List.mem_map.mp hk
    exact Int.le_trans hsize (index_le_farCorner (by omega) hp)
  · intro hsize
    exact ⟨_, List.mem_map_of_mem (List.mem_of_getLast? getLast?_positions),
      hsize⟩

end Worksheet
