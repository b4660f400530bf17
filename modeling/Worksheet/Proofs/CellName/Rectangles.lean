/-
The rectangle between two corners, as a list of indices.

The positions of a rectangle are listed in reading order: row by row, and each
row from left to right. Within the width of a grid the index grows along this
order (`index_lt_index`), since a row is left behind before the next one begins.
So the indices of a rectangle are strictly ascending, and none occurs twice; the
list holds one for each row and column between the corners.

Nothing but the rows and the columns between the corners goes into the list.
It is the same for either pair of opposite corners in either order, and for all
spellings of their names (`indicesOfRange_exact`).
-/
import Worksheet.Proofs.CellName.Canonical

namespace Worksheet

variable {a b a' b' p q : Position} {first last first' last' : String}
  {numCols : Int} {f : Fault}

-- ========================================================== reading order

namespace Position

/-- The position comes first in reading order: it is further up, or further to
the left in the same row. -/
def Before (p q : Position) : Prop :=
  p.row < q.row ∨ p.row = q.row ∧ p.col < q.col

/-- What comes first in reading order has the smaller index. -/
theorem index_lt_index (hcol : (p.col : Int) < numCols) (h : p.Before q) :
    p.index numCols < q.index numCols := by
  unfold index
  rcases h with hrow | ⟨hrow, hlt⟩
  · -- the row of the second one begins only after that of the first has ended
    have hnext : ((p.row : Int) + 1) * numCols ≤ q.row * numCols :=
      Int.mul_le_mul_of_nonneg_right (by omega) (by omega)
    rw [add_mul, one_mul] at hnext
    omega
  · rw [hrow]
    omega

end Position

private theorem pairwise_between (n m : Nat) : (between n m).Pairwise (· < ·) :=
  List.pairwise_lt_range'

private theorem length_between (n m : Nat) :
    (between n m).length = max n m - min n m + 1 :=
  List.length_range'

/-- The positions of a rectangle come in reading order. -/
theorem pairwise_positions :
    (positions a b).Pairwise Position.Before := by
  unfold positions
  rw [List.pairwise_flatMap]
  constructor
  · intro row _
    rw [List.pairwise_map]
    exact (pairwise_between a.col b.col).imp fun hlt => Or.inr ⟨rfl, hlt⟩
  · refine (pairwise_between a.row b.row).imp fun hlt p hp q hq => ?_
    obtain ⟨col, -, rfl⟩ := List.mem_map.mp hp
    obtain ⟨col', -, rfl⟩ := List.mem_map.mp hq
    exact Or.inl hlt

/-- There are as many positions as rows times columns. -/
theorem length_positions : (positions a b).length =
    (max a.row b.row - min a.row b.row + 1) *
      (max a.col b.col - min a.col b.col + 1) := by
  simp [positions, List.length_flatMap, length_between]

-- ================================================================ corners

/-- Two pairs of opposite corners have the same rectangle between them. -/
structure SameRectangle (a b a' b' : Position) : Prop where
  rows : a'.row = a.row ∧ b'.row = b.row ∨ a'.row = b.row ∧ b'.row = a.row
  cols : a'.col = a.col ∧ b'.col = b.col ∨ a'.col = b.col ∧ b'.col = a.col

namespace SameRectangle

private theorem positions_eq (h : SameRectangle a b a' b') :
    positions a' b' = positions a b := by
  have hrows : between a'.row b'.row = between a.row b.row := by
    rcases h.rows with ⟨ha, hb⟩ | ⟨ha, hb⟩
    · rw [ha, hb]
    · rw [ha, hb, between_comm]
  have hcols : between a'.col b'.col = between a.col b.col := by
    rcases h.cols with ⟨ha, hb⟩ | ⟨ha, hb⟩
    · rw [ha, hb]
    · rw [ha, hb, between_comm]
  unfold positions
  rw [hrows, hcols]

private theorem max_col_eq (h : SameRectangle a b a' b') :
    max a'.col b'.col = max a.col b.col := by
  rcases h.cols with ⟨ha, hb⟩ | ⟨ha, hb⟩
  · rw [ha, hb]
  · rw [ha, hb, Nat.max_comm]

end SameRectangle

-- ================================================================= ranges

private theorem indicesOfRange_of_first (h : ¬ IsCellName first) :
    indicesOfRange first last numCols = .error (.notACellName first) := by
  unfold indicesOfRange
  rw [Position.ofName_eq_error_iff.mpr ⟨h, rfl⟩]
  rfl

private theorem indicesOfRange_of_last (ha : IsCellName first)
    (h : ¬ IsCellName last) :
    indicesOfRange first last numCols = .error (.notACellName last) := by
  obtain ⟨a, ha⟩ := Position.isCellName_iff.mp ha
  unfold indicesOfRange
  rw [Position.ofName_eq_ok_iff.mpr ha, Position.ofName_eq_error_iff.mpr
    ⟨h, rfl⟩]
  rfl

private theorem indicesOfRange_of_outside (ha : a.Named first)
    (hb : b.Named last) (hcol : numCols ≤ (max a.col b.col : Nat)) :
    indicesOfRange first last numCols =
      .error (.rangeOutside first last numCols) := by
  unfold indicesOfRange
  rw [Position.ofName_eq_ok_iff.mpr ha, Position.ofName_eq_ok_iff.mpr hb]
  exact if_pos (by omega)

private theorem indicesOfRange_of_inside (ha : a.Named first)
    (hb : b.Named last) (hcol : ((max a.col b.col : Nat) : Int) < numCols) :
    indicesOfRange first last numCols =
      .ok ((positions a b).map (·.index numCols)) :=
  indicesOfRange_eq (Position.ofName_eq_ok_iff.mpr ha)
    (Position.ofName_eq_ok_iff.mpr hb) hcol

/-- A range without indices has a corner that is no cell name, the first one
being looked at first, or a corner beyond the width of the grid. -/
theorem indicesOfRange_eq_error_iff :
    indicesOfRange first last numCols = .error f ↔
      (¬ IsCellName first ∧ f = .notACellName first) ∨
      (IsCellName first ∧ ¬ IsCellName last ∧ f = .notACellName last) ∨
      ∃ a b : Position, a.Named first ∧ b.Named last ∧
        numCols ≤ (max a.col b.col : Nat) ∧
        f = .rangeOutside first last numCols := by
  constructor
  · intro h
    by_cases hfirst : IsCellName first
    · by_cases hlast : IsCellName last
      · obtain ⟨a, ha⟩ := Position.isCellName_iff.mp hfirst
        obtain ⟨b, hb⟩ := Position.isCellName_iff.mp hlast
        by_cases hcol : numCols ≤ (max a.col b.col : Nat)
        · cases (indicesOfRange_of_outside ha hb hcol).symm.trans h
          exact Or.inr (Or.inr ⟨a, b, ha, hb, hcol, rfl⟩)
        · cases (indicesOfRange_of_inside ha hb (not_le.mp hcol)).symm.trans h
      · cases (indicesOfRange_of_last hfirst hlast).symm.trans h
        exact Or.inr (Or.inl ⟨hfirst, hlast, rfl⟩)
    · cases (indicesOfRange_of_first hfirst).symm.trans h
      exact Or.inl ⟨hfirst, rfl⟩
  · rintro (⟨hfirst, rfl⟩ | ⟨hfirst, hlast, rfl⟩ | ⟨a, b, ha, hb, hcol, rfl⟩)
    · exact indicesOfRange_of_first hfirst
    · exact indicesOfRange_of_last hfirst hlast
    · exact indicesOfRange_of_outside ha hb hcol

-- ================================================================= result

/-- A range has no indices just if a corner is no cell name or the larger column
is beyond the width. Otherwise its indices are strictly ascending; they are
those of the rows and columns between the corners, as many as rows times
columns; and every pair of opposite corners of the rectangle, in every spelling
of the names, has the same list. -/
theorem indicesOfRange_exact (first last : String) (numCols : Int) :
    (∀ f, indicesOfRange first last numCols = .error f ↔
      (¬ IsCellName first ∧ f = .notACellName first) ∨
      (IsCellName first ∧ ¬ IsCellName last ∧ f = .notACellName last) ∨
      ∃ a b : Position, a.Named first ∧ b.Named last ∧
        numCols ≤ (max a.col b.col : Nat) ∧
        f = .rangeOutside first last numCols) ∧
    ∀ indices, indicesOfRange first last numCols = .ok indices →
      indices.Pairwise (· < ·) ∧
      ∃ a b : Position, a.Named first ∧ b.Named last ∧
        (∀ i, i ∈ indices ↔ ∃ row col : Nat,
          (min a.row b.row ≤ row ∧ row ≤ max a.row b.row) ∧
            (min a.col b.col ≤ col ∧ col ≤ max a.col b.col) ∧
            i = row * numCols + col) ∧
        indices.length = (max a.row b.row - min a.row b.row + 1) *
          (max a.col b.col - min a.col b.col + 1) ∧
        ∀ a' b' first' last', SameRectangle a b a' b' → a'.Named first' →
          b'.Named last' →
            indicesOfRange first' last' numCols = .ok indices := by
  refine ⟨fun f => indicesOfRange_eq_error_iff, fun indices h => ?_⟩
  obtain ⟨a, b, ha, hb, hcol, rfl⟩ := indicesOfRange_ok h
  refine ⟨?_, a, b, Position.ofName_eq_ok_iff.mp ha,
    Position.ofName_eq_ok_iff.mp hb,
    fun i => ?_, ?_, fun a' b' first' last' hsame ha' hb' => ?_⟩
  · rw [List.pairwise_map]
    exact pairwise_positions.imp_of_mem fun hp _ hbefore =>
      Position.index_lt_index (Int.lt_of_le_of_lt (le_farCorner hp).2 hcol)
        hbefore
  · rw [List.mem_map]
    constructor
    · rintro ⟨p, hp, rfl⟩
      obtain ⟨hrow, hcol⟩ := mem_positions.mp hp
      exact ⟨p.row, p.col, hrow, hcol, rfl⟩
    · rintro ⟨row, col, hrow, hcol, rfl⟩
      exact ⟨⟨row, col⟩, mem_positions.mpr ⟨hrow, hcol⟩, rfl⟩
  · rw [List.length_map, length_positions]
  · rw [indicesOfRange_of_inside ha' hb' (by rw [hsame.max_col_eq]; exact hcol),
      hsame.positions_eq]

/-- Two columns and two rows, from the lower right corner to the upper left one
and between the other two. -/
theorem indicesOfRange_exact_square :
    indicesOfRange " c2" "B01\n" 4 = .ok [5, 6, 9, 10] ∧
      ([5, 6, 9, 10] : List Int).Pairwise (· < ·) ∧
      indicesOfRange "b02" "C1" 4 = .ok [5, 6, 9, 10] ∧
      indicesOfRange "C2" "B1" 2 = .error (.rangeOutside "C2" "B1" 2) := by
  have hindices : indicesOfRange " c2" "B01\n" 4 = .ok [5, 6, 9, 10] := rfl
  obtain ⟨hascending, a, b, ha, hb, -, -, hsame⟩ :=
    (indicesOfRange_exact " c2" "B01\n" 4).2 _ hindices
  have hnamed : ∀ {p : Position} {text : String}, Position.ofName text = .ok p →
      p.Named text :=
    Position.ofName_eq_ok_iff.mp
  cases ha.unique (hnamed (p := ⟨2, 2⟩) rfl)
  cases hb.unique (hnamed (p := ⟨1, 1⟩) rfl)
  refine ⟨hindices, hascending, ?_, ?_⟩
  · exact hsame ⟨2, 1⟩ ⟨1, 2⟩ "b02" "C1" ⟨Or.inl ⟨rfl, rfl⟩, Or.inr ⟨rfl, rfl⟩⟩
      (hnamed rfl) (hnamed rfl)
  · exact ((indicesOfRange_exact "C2" "B1" 2).1 _).mpr (Or.inr (Or.inr
      ⟨⟨2, 2⟩, ⟨1, 1⟩, hnamed rfl, hnamed rfl, by decide, rfl⟩))

end Worksheet
