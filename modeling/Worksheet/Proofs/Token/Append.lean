/-
The tokens of two texts side by side.

Only a run can go on from one text into the next. Where it does not, the pieces
of the two texts are those of each one (`pieces_append`), and since a piece is
read by itself, so are the tokens: what the first text makes of its pieces does
not change, and the pieces of the second one are read as ever, only further on
(`tokensOfPieces_add`). The end of the first text is no token of the whole.
-/
import Worksheet.Proofs.Token.Tiling

namespace Worksheet

open Text (upper)

variable {known keywords : List String} {a b : String} {cs : List Char}
  {ps : List (List Char)} {n k : Nat}

-- ================================================================== shifts

/-- The token in a text that has some more characters in front. -/
def Token.shift (t : Token) (k : Nat) : Token :=
  { t with start := t.start + k }

/-- The error in a text that has some more characters in front. -/
def LexError.shift (e : LexError) (k : Nat) : LexError :=
  { e with charIndex := e.charIndex + k }

/-- Only the offsets tell where the reading of some pieces began. -/
theorem tokensOfPieces_add : tokensOfPieces known (n + k) ps =
    ((tokensOfPieces known n ps).map (·.map (·.shift k))).mapError
      (·.shift k) := by
  induction ps generalizing n with
  | nil =>
      rw [tokensOfPieces, tokensOfPieces]
      simp [Except.map, Except.mapError, Token.shift]
  | cons p ps ih =>
      have hoffset : n + k + p.length = n + p.length + k := by omega
      rw [tokensOfPieces, tokensOfPieces, hoffset, ih]
      cases readPiece known p with
      | blank => rfl
      | bad fault => simp [Except.map, Except.mapError, LexError.shift]
      | token kind =>
          cases tokensOfPieces known (n + p.length) ps with
          | error e => rfl
          | ok tokens => simp [Except.map, Except.mapError, Token.shift]

-- =================================================================== seams

/-- A run goes on from the first characters into the second ones. -/
def Joins (u v : List Char) : Prop :=
  ∃ c d, u.getLast? = some c ∧ v.head? = some d ∧ isRunChar c = true ∧
    isRunChar d = true

/-- Where no run goes on, the text is cut. -/
theorem pieces_append {u v : List Char} (h : ¬ Joins u v) :
    pieces (u ++ v) = pieces u ++ pieces v := by
  refine List.splitBy_append fun c hc d hd => ?_
  rw [← Bool.not_eq_true, Bool.and_eq_true]
  rintro ⟨hrunc, hrund⟩
  exact h ⟨c, d, hc, hd, hrunc, hrund⟩

-- ================================================================= reading

section

variable (hseam : ¬ Joins a.toList b.toList)

include hseam

/-- After the tokens of the first text come those of the second one, or its
error. -/
private theorem tokensOfText_append_of_tiled {w : List Token}
    (hw : Tiled (keywords.map upper) 0 (pieces a.toList) w) :
    tokensOfText keywords (a ++ b) =
      ((tokensOfText keywords b).map (w ++ ·.map (·.shift a.length))).mapError
        (·.shift a.length) := by
  unfold tokensOfText
  rw [String.toList_append, pieces_append hseam, tokensOfPieces_of_tiled hw,
    flatten_pieces, String.length_toList, tokensOfPieces_add]
  cases tokensOfPieces (keywords.map upper) 0 (pieces b.toList) <;> rfl

/-- Nothing is read after an error. -/
private theorem tokensOfText_append_of_error {e : LexError}
    (h : tokensOfText keywords a = .error e) :
    tokensOfText keywords (a ++ b) = .error e := by
  unfold tokensOfText at h ⊢
  rw [String.toList_append, pieces_append hseam]
  rcases tiled_or_bad (keywords.map upper) 0 fun _ (hp : _ ∈ pieces a.toList) =>
    hp with
    ⟨w, hw⟩ | ⟨before, p, after, fault, w, hsplit, hw, hbad, -⟩
  · have hread := tokensOfPieces_of_tiled hw []
    rw [List.append_nil] at hread
    cases hread.symm.trans h
  · rw [hsplit, List.append_assoc, List.cons_append,
      tokensOfPieces_of_bad hw hbad, ← h, hsplit, tokensOfPieces_of_bad hw hbad]

end

-- ================================================================== result

/-- Texts are read one by one where no run goes on from one into the other. An
error of the first text stays. After the tokens of the first text without its
end come the tokens of the second one, or its error, further on by the length of
the first text. -/
theorem tokenize_append (hseam : ¬ Joins a.toList b.toList) :
    (∀ e, tokenize keywords none a = .ok (.error e) →
      tokenize keywords none (a ++ b) = .ok (.error e)) ∧
    ∀ ts, tokenize keywords none a = .ok (.ok ts) →
      (∀ e, tokenize keywords none b = .ok (.error e) →
        tokenize keywords none (a ++ b) = .ok (.error (e.shift a.length))) ∧
      ∀ us, tokenize keywords none b = .ok (.ok us) →
        ∃ w, ts = w ++ [⟨.eof, "", a.length⟩] ∧
          tokenize keywords none (a ++ b) =
            .ok (.ok (w ++ us.map (·.shift a.length))) := by
  unfold tokenize
  dsimp only
  refine ⟨fun e he => ?_, fun ts hts => ?_⟩
  · rw [tokensOfText_append_of_error hseam (Except.ok.inj he)]
  · rcases tokensOfText_cases keywords a with ⟨w, hw, hread⟩ | ⟨e, herror, -⟩
    · rw [tokensOfText_append_of_tiled hseam hw]
      refine ⟨fun e he => ?_, fun us hus => ⟨w, ?_, ?_⟩⟩
      · rw [Except.ok.inj he]
        rfl
      · exact Except.ok.inj ((Except.ok.inj hts).symm.trans hread)
      · rw [Except.ok.inj hus]
        rfl
    · cases (Except.ok.inj hts).symm.trans herror

/-- The first text leaves parentheses open, and what closes them is followed by
a cell name or by a letter alone. -/
theorem tokenize_append_parentheses :
    let w : List Token := [⟨.number, "2", 0⟩, ⟨.operator, "*", 1⟩,
      ⟨.leftParen, "(", 2⟩, ⟨.cell, "A0", 3⟩]
    let us : List Token := [⟨.rightParen, ")", 0⟩, ⟨.operator, "-", 1⟩,
      ⟨.cell, "b1", 2⟩, ⟨.eof, "", 4⟩]
    (¬ Joins "2*(A0".toList ")-b1".toList ∧
      ¬ Joins "2*(A0".toList ")-Q".toList) ∧
      tokenize [] none ("2*(A0" ++ ")-b1") =
        .ok (.ok (w ++ us.map (·.shift 5))) ∧
      tokenize [] none ("2*(A0" ++ ")-Q") =
        .ok (.error ⟨.invalidCell, 'Q', 7, "Q"⟩) := by
  intro w us
  have hfirst : tokenize [] none "2*(A0" =
    .ok (.ok (w ++ [⟨.eof, "", 5⟩])) := rfl
  have hseam : ∀ rest : List Char, ¬ Joins "2*(A0".toList (')' :: rest) := by
    rintro rest ⟨c, d, -, ⟨⟩, -, hrun⟩
    cases hrun
  refine ⟨⟨hseam ['-', 'b', '1'], hseam ['-', 'Q']⟩, ?_, ?_⟩
  · obtain ⟨w', hw', hread⟩ :=
      ((@tokenize_append [] "2*(A0" ")-b1" (hseam ['-', 'b', '1'])).2 _
        hfirst).2 us rfl
    rw [List.append_cancel_right hw']
    exact hread
  · exact ((@tokenize_append [] "2*(A0" ")-Q" (hseam ['-', 'Q'])).2 _ hfirst).1
      ⟨.invalidCell, 'Q', 2, "Q"⟩ rfl

/-- A run that goes on can make a token of what was none. -/
example : tokenize [] none "A" = .ok (.error ⟨.invalidCell, 'A', 0, "A"⟩) ∧
    tokenize [] none ("A" ++ "0") =
      .ok (.ok [⟨.cell, "A0", 0⟩, ⟨.eof, "", 2⟩]) :=
  ⟨rfl, rfl⟩

end Worksheet
