/-
What a text is cut into, and which texts make which tokens.

A sign is a piece by itself wherever it stands, so a text falls apart at its
signs (`pieces_sign`), and a run between two of them is one piece
(`pieces_run`). Each kind of token has a condition of its own on the text of
the piece, which the text of the token keeps (`Token.Spelled`).

A token without its offset is a spelling. The spellings of the tokens depend
on the pieces alone, so pieces each of which is a token are cut into tokens
with just these spellings (`tokensOfPieces_of_spellings`).
-/
import Mathlib.Data.List.SplitBy
import Worksheet.Proofs.Text.Upper
import Worksheet.Token.OfText

namespace Worksheet

open Text (upper isAlpha_iff_toNat)

variable {known keywords : List String} {cs u v run digits : List Char}
  {c : Char} {text : String} {limit : Option Int} {tokens : List Token}
  {t : Token} {offset : Nat} {kind : TokenKind}

-- ================================================================= pieces

/-- A character that does not cling cuts the text in front of it and behind
it. -/
theorem pieces_sign (hc : isRunChar c = false) :
    pieces (u ++ c :: v) = pieces u ++ [c] :: pieces v := by
  have hfront : pieces (u ++ c :: v) = pieces u ++ pieces (c :: v) :=
    List.splitBy_append_cons v fun x _ => by simp [hc]
  have hback : pieces ([c] ++ v) = pieces [c] ++ pieces v :=
    List.splitBy_append fun x hx y _ => by
      have hx' : c = x := by simpa using hx
      simp [← hx', hc]
  rw [hfront]
  exact congrArg (pieces u ++ ·) hback

theorem pieces_cons_sign (hc : isRunChar c = false) :
    pieces (c :: v) = [c] :: pieces v :=
  pieces_sign (u := []) hc

/-- Characters that all cling together are one piece. -/
theorem pieces_run (hne : run ≠ []) (hrun : ∀ c ∈ run, isRunChar c = true) :
    pieces run = [run] := by
  refine List.splitBy_of_isChain hne (List.Pairwise.isChain ?_)
  refine List.Pairwise.imp_of_mem ?_ (List.pairwise_of_forall
    (R := fun _ _ => True)
    fun _ _ => trivial)
  intro a b ha hb _
  simp [hrun a ha, hrun b hb]

-- ============================================================= characters

theorem isRunChar_of_isDigit (h : c.isDigit = true) : isRunChar c = true := by
  simp [isRunChar, Char.isAlphanum, h]

theorem isRunChar_of_isAlpha (h : c.isAlpha = true) : isRunChar c = true := by
  simp [isRunChar, Char.isAlphanum, h]

private theorem isDigit_eq_false_of_isAlpha (h : c.isAlpha = true) :
    c.isDigit = false := by
  rw [← Bool.not_eq_true, Char.isDigit_iff_toNat]
  have h0 : '0'.toNat = 48 := rfl
  have h9 : '9'.toNat = 57 := rfl
  have := isAlpha_iff_toNat.mp h
  omega

-- =================================================================== runs

private theorem isNumeral_eq_false (h : c.isAlpha = true) :
    isNumeral (c :: cs) = false := by
  unfold isNumeral
  rw [List.takeWhile_cons_of_neg (by simp [isDigit_eq_false_of_isAlpha h])]
  rfl

/-- A numeral begins with a digit, and all its characters cling together. -/
theorem run_of_isNumeral (h : isNumeral cs = true) :
    (∃ d rest, cs = d :: rest ∧ d.isDigit = true) ∧
      ∀ c ∈ cs, isRunChar c = true := by
  unfold isNumeral isDigits at h
  rw [Bool.and_eq_true, Bool.and_eq_true] at h
  obtain ⟨⟨hne, hwhole⟩, hrest⟩ := h
  have hdigit : ∀ c ∈ cs.takeWhile Char.isDigit, c.isDigit = true :=
    List.all_eq_true.mp hwhole
  constructor
  · cases cs with
    | nil => simp at hne
    | cons d rest =>
        refine ⟨d, rest, rfl, ?_⟩
        by_contra hd
        rw [List.takeWhile_cons_of_neg hd] at hne
        simp at hne
  · rw [← List.takeWhile_append_dropWhile (p := Char.isDigit) (l := cs)]
    intro c hc
    rcases List.mem_append.mp hc with hc | hc
    · exact isRunChar_of_isDigit (hdigit c hc)
    · cases hdrop : cs.dropWhile Char.isDigit with
      | nil =>
          rw [hdrop] at hc
          cases hc
      | cons mark digits =>
          rw [hdrop] at hrest hc
          simp only [Bool.and_eq_true, List.all_eq_true] at hrest
          rcases List.mem_cons.mp hc with rfl | hc
          · simp [isRunChar, hrest.1]
          · exact isRunChar_of_isDigit (hrest.2.2 c hc)

theorem pieces_numeral (h : isNumeral cs = true) : pieces cs = [cs] := by
  obtain ⟨⟨d, rest, rfl, -⟩, hrun⟩ := run_of_isNumeral h
  exact pieces_run (List.cons_ne_nil d rest) hrun

/-- A cell name is a letter and one or two digits. -/
theorem isSome_ofChars?_iff : (Position.ofChars? cs).isSome = true ↔
    ∃ letter digits, cs = letter :: digits ∧ letter.isAlpha = true ∧
      digits ≠ [] ∧ (∀ d ∈ digits, d.isDigit = true) ∧ digits.length ≤ 2 := by
  cases cs with
  | nil => simp [Position.ofChars?]
  | cons letter digits =>
      rw [Position.ofChars?]
      constructor
      · intro h
        split at h
        · next hname =>
          simp only [isDigits, Bool.and_eq_true, List.all_eq_true,
            decide_eq_true_eq,
            Bool.not_eq_true', List.isEmpty_eq_false_iff] at hname
          obtain ⟨⟨hletter, hne, hdigits⟩, hlen⟩ := hname
          exact ⟨letter, digits, rfl, hletter, hne, hdigits, hlen⟩
        · cases h
      · rintro ⟨_, _, ⟨⟩, hletter, hne, hdigits, hlen⟩
        rw [if_pos]
        · rfl
        · simpa [isDigits, hletter, hne, hlen] using hdigits

theorem isRunChar_of_cellName (h : (Position.ofChars? cs).isSome = true) :
    ∀ c ∈ cs, isRunChar c = true := by
  obtain ⟨letter, digits, rfl, hletter, -, hdigits, -⟩ :=
    isSome_ofChars?_iff.mp h
  intro c hc
  rcases List.mem_cons.mp hc with rfl | hc
  · exact isRunChar_of_isAlpha hletter
  · exact isRunChar_of_isDigit (hdigits c hc)

theorem pieces_cellName (h : (Position.ofChars? cs).isSome = true) :
    pieces cs = [cs] := by
  refine pieces_run ?_ (isRunChar_of_cellName h)
  rintro rfl
  cases h

/-- The run is a known function name: some letters whose capitals are known. -/
def IsKnownWord (known : List String) (run : List Char) : Prop :=
  run ≠ [] ∧ (∀ c ∈ run, c.isAlpha = true) ∧ upper (String.ofList run) ∈ known

/-- A known function name is no cell name, since it has no digits. -/
private theorem isSome_ofChars?_of_alpha (h : ∀ c ∈ cs, c.isAlpha = true) :
    (Position.ofChars? cs).isSome = false := by
  rw [← Bool.not_eq_true, isSome_ofChars?_iff]
  rintro ⟨letter, digits, rfl, -, hne, hdigits, -⟩
  obtain ⟨d, hd⟩ := List.exists_mem_of_ne_nil digits hne
  have hletter := isDigit_eq_false_of_isAlpha (h d (List.mem_cons_of_mem _ hd))
  rw [hdigits d hd] at hletter
  cases hletter

-- ============================================================== spellings

/-- What the text of a token of this kind is. -/
def Spelled (known : List String) : TokenKind → List Char → Prop
  | .number, cs => isNumeral cs = true
  | .cell, cs => (Position.ofChars? cs).isSome = true
  | .function, cs => IsKnownWord known cs
  | .operator, cs => cs = ['+'] ∨ cs = ['-'] ∨ cs = ['*'] ∨ cs = ['/']
  | .leftParen, cs => cs = ['(']
  | .rightParen, cs => cs = [')']
  | .colon, cs => cs = [':']
  | .eof, _ => False

/-- A piece that is spelled like a token of some kind is one. -/
theorem readPiece_of_spelled (h : Spelled known kind cs) :
    readPiece known cs = .token kind := by
  cases kind with
  | number =>
      obtain ⟨⟨d, rest, rfl, hd⟩, -⟩ := run_of_isNumeral h
      have hnumeral : isNumeral (d :: rest) = true := h
      rw [readPiece, if_pos (isRunChar_of_isDigit hd), readRun, if_pos hnumeral]
  | cell =>
      obtain ⟨letter, digits, rfl, hletter, -⟩ := isSome_ofChars?_iff.mp h
      have hcell : (Position.ofChars? (letter :: digits)).isSome = true := h
      rw [readPiece, if_pos (isRunChar_of_isAlpha hletter), readRun,
        isNumeral_eq_false hletter, if_neg Bool.false_ne_true, if_pos hcell]
  | function =>
      obtain ⟨hne, hletters, hknown⟩ := h
      obtain ⟨c, rest, rfl⟩ := List.exists_cons_of_ne_nil hne
      have hc := hletters c List.mem_cons_self
      have hcall : ((c :: rest).all Char.isAlpha &&
          known.contains (upper (String.ofList (c :: rest)))) = true := by
        rw [Bool.and_eq_true, List.all_eq_true]
        exact ⟨hletters, by simpa using hknown⟩
      rw [readPiece, if_pos (isRunChar_of_isAlpha hc), readRun,
        isNumeral_eq_false hc,
        if_neg Bool.false_ne_true, isSome_ofChars?_of_alpha hletters,
        if_neg Bool.false_ne_true, if_pos hcall]
  | operator => rcases h with rfl | rfl | rfl | rfl <;> rfl
  | leftParen => cases h; rfl
  | rightParen => cases h; rfl
  | colon => cases h; rfl
  | eof => cases h

/-- A piece of a text is a run, or one character. -/
theorem eq_nil_of_mem_pieces (h : c :: cs ∈ pieces u)
    (hc : isRunChar c = false) : cs = [] := by
  have hchain := List.isChain_of_mem_splitBy h
  cases cs with
  | nil => rfl
  | cons d rest =>
      rw [List.isChain_cons_cons, hc] at hchain
      cases hchain.1

/-- The pieces of a text that are tokens are spelled like them. -/
theorem spelled_of_readPiece (hmem : cs ∈ pieces u)
    (h : readPiece known cs = .token kind) :
    Spelled known kind cs := by
  cases cs with
  | nil => cases h
  | cons c rest =>
      rw [readPiece] at h
      split at h
      · rw [readRun] at h
        split at h
        · next hnumeral =>
          cases h
          exact hnumeral
        · split at h
          · next hcell =>
            cases h
            exact hcell
          · split at h
            · next hword =>
              cases h
              rw [Bool.and_eq_true, List.all_eq_true] at hword
              exact ⟨List.cons_ne_nil _ _, hword.1, by simpa using hword.2⟩
            · cases h
      · next hrun =>
        rw [eq_nil_of_mem_pieces hmem (Bool.eq_false_iff.mpr hrun)]
        split at h
        · cases h
        · split at h
          · next sign hsign =>
            cases h
            unfold signKind? at hsign
            split at hsign <;> cases hsign <;> simp [Spelled]
          · cases h

-- ================================================================= tokens

/-- A token without its offset. -/
def Token.spelling (t : Token) : TokenKind × List Char :=
  (t.kind, t.text.toList)

theorem Token.spelling_eq_iff {text : String} :
    t.spelling = (kind, text.toList) ↔ t.kind = kind ∧ t.text = text := by
  rw [spelling, Prod.mk.injEq, String.toList_inj]

/-- Pieces that are all spelled like tokens are cut into these, and the end. -/
theorem tokensOfPieces_of_spellings {words : List (TokenKind × List Char)}
    (h : ∀ w ∈ words, Spelled known w.1 w.2) :
    ∃ tokens, tokensOfPieces known offset (words.map (·.2)) = .ok tokens ∧
      tokens.map Token.spelling = words ++ [(.eof, [])] := by
  induction words generalizing offset with
  | nil => exact ⟨_, rfl, rfl⟩
  | cons w words ih =>
      obtain ⟨tokens, htokens, hspell⟩ :=
        @ih (offset + w.2.length) fun v hv => h v (List.mem_cons_of_mem _ hv)
      refine ⟨⟨w.1, String.ofList w.2, offset⟩ :: tokens, ?_, ?_⟩
      · rw [List.map_cons, tokensOfPieces,
          readPiece_of_spelled (h w List.mem_cons_self)]
        dsimp only
        rw [htokens]
        rfl
      · rw [List.map_cons, hspell, Token.spelling, String.toList_ofList]
        rfl

/-- The tokens of a text, the end aside, are spelled as their kinds say. -/
private theorem spelled_of_tokensOfPieces {ps : List (List Char)}
    (hps : ∀ p ∈ ps, p ∈ pieces u)
    (h : tokensOfPieces known offset ps = .ok tokens) :
    ∀ t ∈ tokens, t.kind = .eof ∨ Spelled known t.kind t.text.toList := by
  induction ps generalizing offset tokens with
  | nil =>
      cases h
      intro t ht
      rw [List.mem_singleton.mp ht]
      exact Or.inl rfl
  | cons p ps ih =>
      have hrest : ∀ q ∈ ps, q ∈ pieces u :=
        fun q hq => hps q (List.mem_cons_of_mem _ hq)
      rw [tokensOfPieces] at h
      cases hp : readPiece known p with
      | blank =>
          rw [hp] at h
          exact ih hrest h
      | bad kind =>
          rw [hp] at h
          cases h
      | token kind =>
          rw [hp] at h
          dsimp only at h
          cases htail : tokensOfPieces known (offset + p.length) ps with
          | error e =>
              rw [htail] at h
              cases h
          | ok rest =>
              rw [htail] at h
              cases h
              intro t ht
              rcases List.mem_cons.mp ht with rfl | ht
              · right
                dsimp only
                rw [String.toList_ofList]
                exact spelled_of_readPiece (hps p List.mem_cons_self) hp
              · exact ih hrest htail t ht

/-- A text is looked at, or it is too long. Then the error is about the place of
the limit, and there is none if the limit is too far below zero. -/
theorem tokenize_cases (keywords : List String) (limit : Option Int)
    (text : String) :
    tokenize keywords limit text = .ok (tokensOfText keywords text) ∨
      ∃ n, limit = some n ∧ n < text.length ∧
        ((∃ c, tokenize keywords limit text =
          .ok (.error ⟨.tooLong, c, n, ""⟩)) ∨ (n < 0 ∧
            tokenize keywords limit text = .error (.limitOutsideText n))) := by
  unfold tokenize
  cases limit with
  | none => exact Or.inl rfl
  | some n =>
      dsimp only
      by_cases hshort : (text.length : Int) ≤ n
      · exact Or.inl (if_pos hshort)
      · rw [if_neg hshort]
        refine Or.inr ⟨n, rfl, not_le.mp hshort, ?_⟩
        cases hplace : place? text.toList.length n with
        | some k => exact Or.inl ⟨_, rfl⟩
        | none =>
            rw [place?_eq_none_iff, String.length_toList] at hplace
            exact Or.inr ⟨by omega, rfl⟩

/-- A text that keeps to the limit is looked at. -/
theorem tokenize_of_short
    (hlimit : ∀ n, limit = some n → (text.length : Int) ≤ n) :
    tokenize keywords limit text = .ok (tokensOfText keywords text) := by
  unfold tokenize
  cases limit with
  | none => rfl
  | some n => exact if_pos (hlimit n rfl)

/-- A text that is cut into tokens keeps to the limit. -/
theorem length_le_of_tokenize {n : Int}
    (h : tokenize keywords (some n) text = .ok (.ok tokens)) :
    (text.length : Int) ≤ n := by
  by_contra hlong
  unfold tokenize at h
  dsimp only at h
  rw [if_neg hlong] at h
  split at h <;> cases h

/-- A limit can refuse a text, but it does not change its tokens. -/
theorem tokensOfText_of_tokenize
    (h : tokenize keywords limit text = .ok (.ok tokens)) :
    tokensOfText keywords text = .ok tokens := by
  rcases tokenize_cases keywords limit text
    with hread | ⟨n, -, -, ⟨c, hlong⟩ | ⟨-, hfault⟩⟩
  · exact Except.ok.inj (hread.symm.trans h)
  · cases hlong.symm.trans h
  · cases hfault.symm.trans h

theorem spelled_of_tokenize
    (h : tokenize keywords limit text = .ok (.ok tokens)) :
    ∀ t ∈ tokens, t.kind = .eof ∨ Spelled (keywords.map upper) t.kind
      t.text.toList :=
  spelled_of_tokensOfPieces (fun _ hp => hp) (tokensOfText_of_tokenize h)

/-- An operator token has one of the four signs, and a number token has a
numeral, with or without a line end. -/
structure Token.Regular (t : Token) : Prop where
  sign : t.kind = .operator → t.text ∈ ["+", "-", "*", "/"]
  numeral : t.kind = .number → isNumeralLine t.text = true

theorem regular_of_spelled (h : Spelled known t.kind t.text.toList) :
    t.Regular := by
  constructor
  · intro hkind
    rw [hkind] at h
    rw [← String.ofList_toList (s := t.text)]
    rcases h with htext | htext | htext | htext <;> rw [htext] <;> decide
  · intro hkind
    rw [hkind] at h
    have hnumeral : isNumeral t.text.toList = true := h
    rw [isNumeralLine, hnumeral, Bool.true_or]

/-- All tokens that are cut from a text are regular. -/
theorem regular_of_tokenize
    (h : tokenize keywords limit text = .ok (.ok tokens)) :
    ∀ t ∈ tokens, t.Regular := by
  intro t ht
  rcases spelled_of_tokenize h t ht with heof | hspelled
  · constructor <;> simp [heof]
  · exact regular_of_spelled hspelled

end Worksheet
