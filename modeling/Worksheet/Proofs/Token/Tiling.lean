/-
The tokens of a text, laid out along it.

A text falls into runs, each as long as it can be, and single characters
beside them, and it does so in one way only (`isCut_iff`). What a piece must
look like to be a token is said once more without the reader (`Lexeme`): a
piece is blank, or a token of one kind, or has a fault that its first two
characters decide, and the reader tells these apart (`readPiece_cases`).

# Tokens along the pieces

`Tiled` is the row of tokens that some pieces make, each token at the place
where its piece begins; it grows by a piece at a time, as the reader goes. All
that can be asked of the places is read off it by induction on the row: a token
is a slice of the text, no token begins before the last one stops, and what no
token covers is blank (`Tiled.tiles`).

# The first bad piece

The reader goes on as long as the pieces are allowed. Either all of them are,
or the error is about the first one that is not, and nothing after it is looked
at (`tokensOfText_cases`).
-/
import Worksheet.Proofs.Token.Spelling

namespace Worksheet

open Text (upper isBlank isAlpha_iff_toNat)

variable {known keywords : List String} {cs u p : List Char}
  {ps qs : List (List Char)} {c : Char} {kind : TokenKind} {w : List Token}
  {t : Token} {n : Nat}

-- ================================================================= pieces

/-- Characters that all cling together, at least one of them. -/
def IsRun (p : List Char) : Prop :=
  p ≠ [] ∧ ∀ c ∈ p, isRunChar c = true

/-- The text cut into runs, each as long as it can be, and single other
characters. -/
structure IsCut (cs : List Char) (ps : List (List Char)) : Prop where
  whole : ps.flatten = cs
  piece : ∀ p ∈ ps, IsRun p ∨ ∃ c, p = [c] ∧ isRunChar c = false
  longest : ps.IsChain fun p q => ¬ (IsRun p ∧ IsRun q)

/-- A run, or one other character, is what no cut goes through. -/
private theorem isRun_or_single_iff (hp : p ≠ []) :
    (IsRun p ∨ ∃ c, p = [c] ∧ isRunChar c = false) ↔
      p.IsChain fun a b => (isRunChar a && isRunChar b) = true := by
  constructor
  · rintro (⟨-, hrun⟩ | ⟨c, rfl, -⟩)
    · refine List.Pairwise.isChain (List.pairwise_of_forall_mem_list
        fun a ha b hb => ?_)
      rw [hrun a ha, hrun b hb]
      rfl
    · exact List.isChain_singleton c
  · intro hchain
    obtain ⟨c, rest, rfl⟩ := List.exists_cons_of_ne_nil hp
    cases hc : isRunChar c with
    | false =>
        right
        cases rest with
        | nil => exact ⟨c, rfl, hc⟩
        | cons d rest =>
            rw [List.isChain_cons_cons, hc] at hchain
            cases hchain.1
    | true =>
        refine Or.inl ⟨List.cons_ne_nil c rest, ?_⟩
        clear hp
        induction rest generalizing c with
        | nil => exact List.forall_mem_singleton.mpr hc
        | cons d rest ih =>
            rw [List.isChain_cons_cons, Bool.and_eq_true] at hchain
            exact List.forall_mem_cons.mpr ⟨hc, ih d hchain.2 hchain.1.2⟩

/-- Two pieces are cut apart where one of them is no run. -/
private theorem cut_between_iff {q : List Char}
    (hp : IsRun p ∨ ∃ c, p = [c] ∧ isRunChar c = false)
    (hq : IsRun q ∨ ∃ c, q = [c] ∧ isRunChar c = false) :
    (∃ ha hb, (isRunChar (p.getLast ha) && isRunChar (q.head hb)) = false) ↔
      ¬ (IsRun p ∧ IsRun q) := by
  constructor
  · rintro ⟨ha, hb, hcut⟩ ⟨hrunp, hrunq⟩
    rw [hrunp.2 _ (List.getLast_mem ha), hrunq.2 _ (List.head_mem hb)] at hcut
    cases hcut
  · intro hnot
    rcases hp with hrunp | ⟨c, rfl, hc⟩
    · rcases hq with hrunq | ⟨d, rfl, hd⟩
      · exact absurd ⟨hrunp, hrunq⟩ hnot
      · exact ⟨hrunp.1, List.cons_ne_nil d [], by simp [hd]⟩
    · have hq' : q ≠ [] := by
        rcases hq with hrunq | ⟨d, rfl, -⟩
        · exact hrunq.1
        · exact List.cons_ne_nil d []
      exact ⟨List.cons_ne_nil c [], hq', by simp [hc]⟩

/-- A text is cut in one way. -/
theorem isCut_iff : IsCut cs ps ↔ ps = pieces cs := by
  rw [eq_comm, pieces, List.splitBy_eq_iff]
  constructor
  · rintro ⟨rfl, hpiece, hlongest⟩
    have hne : ∀ p ∈ ps, p ≠ [] := fun p hp => by
      rcases hpiece p hp with hrun | ⟨c, rfl, -⟩
      · exact hrun.1
      · exact List.cons_ne_nil c []
    refine ⟨rfl, fun hnil => hne [] hnil rfl, fun p hp => ?_, ?_⟩
    · exact (isRun_or_single_iff (hne p hp)).mp (hpiece p hp)
    · exact hlongest.imp_of_mem_imp fun p q hp hq =>
        (cut_between_iff (hpiece p hp) (hpiece q hq)).mpr
  · rintro ⟨rfl, hnil, hchain, hcuts⟩
    have hpiece : ∀ p ∈ ps, IsRun p ∨ ∃ c, p = [c] ∧ isRunChar c = false :=
      fun p hp =>
      (isRun_or_single_iff fun hp' => hnil (hp' ▸ hp)).mpr (hchain p hp)
    exact ⟨rfl, hpiece, hcuts.imp_of_mem_imp fun p q hp hq =>
      (cut_between_iff (hpiece p hp) (hpiece q hq)).mp⟩

theorem flatten_pieces (cs : List Char) : (pieces cs).flatten = cs :=
  List.flatten_splitBy _ cs

-- ================================================================ lexemes

/-- Decimal digits, at least one of them. -/
def Digits (cs : List Char) : Prop :=
  cs ≠ [] ∧ ∀ c ∈ cs, c.isDigit = true

/-- What a token of each kind looks like, given the function names in upper
case. -/
inductive Lexeme (known : List String) : TokenKind → List Char → Prop where
  | whole {digits : List Char} : Digits digits → Lexeme known .number digits
  | decimal {digits fraction : List Char} {mark : Char} : Digits digits →
      mark = '.' ∨ mark = ',' → Digits fraction →
      Lexeme known .number (digits ++ mark :: fraction)
  | cell {letter : Char} {digits : List Char} : letter.isAlpha = true →
      Digits digits → digits.length ≤ 2 →
      Lexeme known .cell (letter :: digits)
  | function {word : List Char} : word ≠ [] → (∀ c ∈ word, c.isAlpha = true) →
      upper (String.ofList word) ∈ known → Lexeme known .function word
  | operator {sign : Char} : sign ∈ ['+', '-', '*', '/'] →
      Lexeme known .operator [sign]
  | leftParen : Lexeme known .leftParen ['(']
  | rightParen : Lexeme known .rightParen [')']
  | colon : Lexeme known .colon [':']

theorem isDigits_iff : isDigits cs = true ↔ Digits cs := by
  simp [isDigits, Digits]

private theorem isDecimalMark_iff :
    isDecimalMark c = true ↔ c = '.' ∨ c = ',' := by
  simp [isDecimalMark]

/-- A numeral is digits, or digits on both sides of a decimal mark. -/
private theorem isNumeral_iff : isNumeral cs = true ↔ Digits cs ∨
    ∃ digits mark fraction, cs = digits ++ mark :: fraction ∧ Digits digits ∧
      (mark = '.' ∨ mark = ',') ∧ Digits fraction := by
  unfold isNumeral
  constructor
  · intro h
    rw [Bool.and_eq_true, isDigits_iff] at h
    obtain ⟨hdigits, hrest⟩ := h
    have hsplit := List.takeWhile_append_dropWhile (p := Char.isDigit) (l := cs)
    cases hdrop : cs.dropWhile Char.isDigit with
    | nil =>
        rw [hdrop, List.append_nil] at hsplit
        exact Or.inl (hsplit ▸ hdigits)
    | cons mark fraction =>
        rw [hdrop] at hrest hsplit
        simp only [Bool.and_eq_true, isDecimalMark_iff, isDigits_iff] at hrest
        exact Or.inr ⟨_, mark, fraction, hsplit.symm, hdigits, hrest⟩
  · rintro (hdigits | ⟨digits, mark, fraction, rfl, hdigits, hmark, hfraction⟩)
    · rw [List.takeWhile_eq_self_iff.mpr hdigits.2,
        List.dropWhile_eq_nil_iff.mpr hdigits.2, isDigits_iff.mpr hdigits]
      rfl
    · have hstop : ¬ mark.isDigit = true := by
        rcases hmark with rfl | rfl <;> decide
      rw [List.takeWhile_append_of_pos hdigits.2,
        List.dropWhile_append_of_pos hdigits.2,
        List.takeWhile_cons_of_neg hstop, List.dropWhile_cons_of_neg hstop,
        List.append_nil, isDigits_iff.mpr hdigits, Bool.true_and]
      simp only [Bool.and_eq_true, isDecimalMark_iff, isDigits_iff]
      exact ⟨hmark, hfraction⟩

theorem lexeme_iff_spelled : Lexeme known kind cs ↔ Spelled known kind cs := by
  constructor
  · intro h
    cases h with
    | whole hdigits => exact isNumeral_iff.mpr (Or.inl hdigits)
    | decimal hdigits hmark hfraction =>
        exact isNumeral_iff.mpr (Or.inr ⟨_, _, _, rfl, hdigits, hmark,
          hfraction⟩)
    | cell hletter hdigits hlen =>
        exact isSome_ofChars?_iff.mpr ⟨_, _, rfl, hletter, hdigits.1,
          hdigits.2, hlen⟩
    | function hne hletters hknown => exact ⟨hne, hletters, hknown⟩
    | operator hsign => simpa [Spelled] using hsign
    | leftParen => rfl
    | rightParen => rfl
    | colon => rfl
  · intro h
    cases kind with
    | number =>
        rcases isNumeral_iff.mp h with hdigits | ⟨_, _, _, rfl, hdigits, hmark,
          hfraction⟩
        · exact .whole hdigits
        · exact .decimal hdigits hmark hfraction
    | cell =>
        obtain ⟨_, _, rfl, hletter, hne, hdigits, hlen⟩ :=
          isSome_ofChars?_iff.mp h
        exact .cell hletter ⟨hne, hdigits⟩ hlen
    | function => exact .function h.1 h.2.1 h.2.2
    | operator =>
        rcases h with rfl | rfl | rfl | rfl <;> exact .operator (by simp)
    | leftParen => cases h; exact .leftParen
    | rightParen => cases h; exact .rightParen
    | colon => cases h; exact .colon
    | eof => cases h

/-- No character of a run is blank. -/
theorem isBlank_of_isRunChar (h : isRunChar c = true) : isBlank c = false := by
  have hdigit0 : '0'.toNat = 48 := rfl
  have hdigit9 : '9'.toNat = 57 := rfl
  have hcode : 44 ≤ c.toNat ∧ c.toNat ≤ 122 := by
    simp only [isRunChar, Char.isAlphanum, Bool.or_eq_true, isAlpha_iff_toNat,
      Char.isDigit_iff_toNat, isDecimalMark_iff] at h
    rcases h with (h | h) | (rfl | rfl)
    · omega
    · omega
    · decide
    · decide
  rw [← Bool.not_eq_true, isBlank, Text.inSpans_iff]
  rintro ⟨s, hs, hfirst, hlast⟩
  simp only [Text.blankSpans, List.mem_cons, List.not_mem_nil, or_false] at hs
  rcases hs with rfl | rfl | rfl | rfl | rfl | rfl | rfl | rfl | rfl | rfl <;>
    dsimp only at hfirst hlast <;> omega

/-- A token begins with a character that is not blank. -/
theorem Lexeme.head (h : Lexeme known kind cs) :
    ∃ c rest, cs = c :: rest ∧ isBlank c = false := by
  have hdigits : ∀ {digits}, Digits digits → ∃ c rest, digits = c :: rest ∧
      isBlank c = false := by
    intro digits hdigits
    obtain ⟨c, rest, rfl⟩ := List.exists_cons_of_ne_nil hdigits.1
    exact ⟨c, rest, rfl, isBlank_of_isRunChar
      (isRunChar_of_isDigit (hdigits.2 c List.mem_cons_self))⟩
  cases h with
  | whole hwhole => exact hdigits hwhole
  | decimal hwhole =>
      obtain ⟨c, rest, rfl, hc⟩ := hdigits hwhole
      exact ⟨c, _, List.cons_append, hc⟩
  | cell hletter =>
      exact ⟨_, _, rfl, isBlank_of_isRunChar (isRunChar_of_isAlpha hletter)⟩
  | function hne hletters =>
      obtain ⟨c, rest, rfl⟩ := List.exists_cons_of_ne_nil hne
      exact ⟨c, rest, rfl, isBlank_of_isRunChar
        (isRunChar_of_isAlpha (hletters c List.mem_cons_self))⟩
  | operator hsign =>
      simp only [List.mem_cons, List.not_mem_nil, or_false] at hsign
      refine ⟨_, _, rfl, ?_⟩
      rcases hsign with rfl | rfl | rfl | rfl <;> decide
  | leftParen => exact ⟨_, _, rfl, by decide⟩
  | rightParen => exact ⟨_, _, rfl, by decide⟩
  | colon => exact ⟨_, _, rfl, by decide⟩

/-- The end of a text has no characters of its own. -/
theorem Lexeme.kind_ne_eof (h : Lexeme known kind cs) : kind ≠ .eof := by
  rintro rfl
  cases h

-- ================================================================= faults

/-- The piece may stand in a formula: it is blank, or a token. -/
def Allowed (known : List String) (p : List Char) : Prop :=
  (∃ c, p = [c] ∧ isBlank c = true) ∨ ∃ kind, Lexeme known kind p

/-- The fault of a piece that is not allowed. A single character does not belong
in a formula; a run was to be a number, a cell name or a function name, as its
first two characters say. -/
inductive Faulty : LexErrorKind → List Char → Prop where
  | character {c : Char} : isRunChar c = false → Faulty .invalidCharacter [c]
  | number {c : Char} {rest : List Char} :
      c.isDigit = true ∨ c = '.' ∨ c = ',' →
      Faulty .invalidNumber (c :: rest)
  | letter {c : Char} : c.isAlpha = true → Faulty .invalidCell [c]
  | cell {c d : Char} {rest : List Char} : c.isAlpha = true →
      d.isAlpha = false → Faulty .invalidCell (c :: d :: rest)
  | function {c d : Char} {rest : List Char} : c.isAlpha = true →
      d.isAlpha = true → Faulty .unknownFunction (c :: d :: rest)

private theorem readPiece_blank (hc : isBlank c = true) :
    readPiece known [c] = .blank := by
  have hrun : ¬ isRunChar c = true := fun hrun => by
    rw [isBlank_of_isRunChar hrun] at hc
    cases hc
  rw [readPiece, if_neg hrun, if_pos hc]

private theorem faulty_badRun (hc : isRunChar c = true) :
    Faulty (badRun (c :: cs)) (c :: cs) := by
  have hnumber : (c.isDigit || isDecimalMark c) = true ↔
      c.isDigit = true ∨ c = '.' ∨ c = ',' := by
    rw [Bool.or_eq_true, isDecimalMark_iff]
  have hletter : ¬ (c.isDigit || isDecimalMark c) = true →
      c.isAlpha = true := by
    intro hnot
    simp only [isRunChar, Char.isAlphanum, Bool.or_eq_true, not_or] at hc hnot
    simpa [hnot.1, hnot.2] using hc
  cases cs with
  | nil =>
      rw [badRun]
      split
      · next h => exact .number (hnumber.mp h)
      · next h => exact .letter (hletter h)
  | cons d rest =>
      rw [badRun]
      split
      · next h => exact .number (hnumber.mp h)
      · next h =>
        split
        · next hd => exact .function (hletter h) hd
        · next hd => exact .cell (hletter h) (Bool.eq_false_iff.mpr hd)

/-- What is bad is not allowed. -/
private theorem not_allowed_of_bad {fault : LexErrorKind}
    (h : readPiece known p = .bad fault) :
    ¬ Allowed known p := by
  rintro (⟨c, rfl, hc⟩ | ⟨kind, hkind⟩)
  · cases (readPiece_blank hc).symm.trans h
  · cases (readPiece_of_spelled (lexeme_iff_spelled.mp hkind)).symm.trans h

/-- A run that is no token has the fault that its first characters show. -/
private theorem readRun_cases (known : List String) (run : List Char) :
    (∃ kind, readRun known run = .token kind) ∨
      readRun known run = .bad (badRun run) := by
  unfold readRun
  split
  · exact Or.inl ⟨_, rfl⟩
  · split
    · exact Or.inl ⟨_, rfl⟩
    · split
      · exact Or.inl ⟨_, rfl⟩
      · exact Or.inr rfl

/-- A piece of a text is blank, a token or bad, and the reader sees which. -/
theorem readPiece_cases (known : List String) (hp : p ∈ pieces u) :
    (readPiece known p = .blank ∧ ∃ c, p = [c] ∧ isBlank c = true) ∨
    (∃ kind, readPiece known p = .token kind ∧ Lexeme known kind p) ∨
    ∃ fault, readPiece known p = .bad fault ∧ Faulty fault p := by
  obtain ⟨c, rest, rfl⟩ := List.exists_cons_of_ne_nil
    (List.ne_nil_of_mem_splitBy hp)
  have htoken : ∀ {kind}, readPiece known (c :: rest) = .token kind →
      Lexeme known kind (c :: rest) := fun h =>
    lexeme_iff_spelled.mpr (spelled_of_readPiece hp h)
  cases hc : isRunChar c with
  | true =>
      have hread : readPiece known (c :: rest) = readRun known (c :: rest) := by
        rw [readPiece, if_pos hc]
      rcases readRun_cases known (c :: rest) with ⟨kind, hrun⟩ | hrun
      · exact Or.inr (Or.inl ⟨kind, hread.trans hrun,
          htoken (hread.trans hrun)⟩)
      · exact Or.inr (Or.inr ⟨_, hread.trans hrun, faulty_badRun hc⟩)
  | false =>
      cases eq_nil_of_mem_pieces hp hc
      by_cases hblank : isBlank c = true
      · exact Or.inl ⟨readPiece_blank hblank, c, rfl, hblank⟩
      · cases hsign : signKind? c with
        | some kind =>
            have hread : readPiece known [c] = .token kind := by
              rw [readPiece, if_neg (Bool.eq_false_iff.mp hc),
                if_neg hblank, hsign]
            exact Or.inr (Or.inl ⟨kind, hread, htoken hread⟩)
        | none =>
            have hread : readPiece known [c] = .bad .invalidCharacter := by
              rw [readPiece, if_neg (Bool.eq_false_iff.mp hc),
                if_neg hblank, hsign]
            exact Or.inr (Or.inr ⟨_, hread, .character hc⟩)

-- ================================================================ tilings

/-- The text has these characters from an offset on. -/
def StandsAt (cs : List Char) (start : Int) (p : List Char) : Prop :=
  ∃ before after, cs = before ++ (p ++ after) ∧ start = before.length

/-- The tokens that some pieces make, the first of which starts at an offset. -/
inductive Tiled (known : List String) : Nat → List (List Char) → List Token →
    Prop where
  | nil {n : Nat} : Tiled known n [] []
  | blank {n : Nat} {c : Char} {ps : List (List Char)} {w : List Token} :
      isBlank c = true → Tiled known (n + 1) ps w → Tiled known n ([c] :: ps) w
  | token {n : Nat} {kind : TokenKind} {p : List Char} {ps : List (List Char)}
      {w : List Token} :
      Lexeme known kind p → Tiled known (n + p.length) ps w →
      Tiled known n (p :: ps) (⟨kind, String.ofList p, n⟩ :: w)

/-- How the tokens of a text, the end aside, lie in it. -/
structure Tiles (known : List String) (cs : List Char) (ps : List (List Char))
    (w : List Token) : Prop where
  /-- They are the pieces that are not blank, in order. -/
  texts : w.map (·.text.toList) = ps.filter fun p => !p.all isBlank
  /-- Each has the kind that its text shows. -/
  lexeme : ∀ t ∈ w, Lexeme known t.kind t.text.toList
  /-- Each is the slice of the text at its place. -/
  stands : ∀ t ∈ w, StandsAt cs t.start t.text.toList
  /-- None begins before the ones in front of it stop. -/
  ascending : w.Pairwise fun t u => t.stop ≤ u.start
  /-- What none of them covers is blank. -/
  gaps : ∀ (i : Nat) c, cs[i]? = some c →
      (∀ t ∈ w, ¬ (t.start ≤ i ∧ i < t.stop)) → isBlank c = true

/-- Tokens are not empty, so each begins before the next. -/
theorem Tiles.start_lt (h : Tiles known cs ps w) :
    w.Pairwise fun t u => t.start < u.start := by
  refine h.ascending.imp_of_mem fun {t u} ht _ hstop => ?_
  obtain ⟨c, rest, htext, -⟩ := (h.lexeme t ht).head
  rw [Token.stop, ← String.length_toList, htext, List.length_cons] at hstop
  omega

namespace Tiled

private theorem allowed (h : Tiled known n ps w) :
    ∀ p ∈ ps, Allowed known p := by
  induction h with
  | nil => exact nofun
  | blank hc _ ih => exact List.forall_mem_cons.mpr ⟨Or.inl ⟨_, rfl, hc⟩, ih⟩
  | token hlexeme _ ih =>
      exact List.forall_mem_cons.mpr ⟨Or.inr ⟨_, hlexeme⟩, ih⟩

private theorem texts (h : Tiled known n ps w) :
    w.map (·.text.toList) = ps.filter fun p => !p.all isBlank := by
  induction h with
  | nil => rfl
  | blank hc _ ih => rw [ih, List.filter_cons_of_neg (by simp [hc])]
  | token hlexeme _ ih =>
      obtain ⟨c, rest, rfl, hc⟩ := hlexeme.head
      rw [List.map_cons, ih, List.filter_cons_of_pos (by simp [hc]),
        String.toList_ofList]

private theorem lexeme (h : Tiled known n ps w) :
    ∀ t ∈ w, Lexeme known t.kind t.text.toList := by
  induction h with
  | nil => exact nofun
  | blank _ _ ih => exact ih
  | token hlexeme _ ih =>
      refine List.forall_mem_cons.mpr ⟨?_, ih⟩
      rwa [String.toList_ofList]

/-- With the characters in front of the pieces given, each token is where it
says. -/
private theorem stands (h : Tiled known n ps w) (front : List Char)
    (hn : n = front.length) :
    ∀ t ∈ w, StandsAt (front ++ ps.flatten) t.start t.text.toList := by
  induction h generalizing front with
  | nil => exact nofun
  | @blank n c ps w _ _ ih =>
      have hrest := ih (front ++ [c]) (by simp [hn])
      rwa [List.append_assoc] at hrest
  | @token n kind p ps w _ _ ih =>
      have hrest := ih (front ++ p) (by simp [hn])
      rw [List.append_assoc] at hrest
      refine List.forall_mem_cons.mpr ⟨⟨front, ps.flatten, ?_, ?_⟩, hrest⟩
      · rw [String.toList_ofList, List.flatten_cons]
      · exact congrArg Nat.cast hn

private theorem le_start (h : Tiled known n ps w) :
    ∀ t ∈ w, (n : Int) ≤ t.start := by
  induction h with
  | nil => exact nofun
  | blank _ _ ih =>
      intro t ht
      have := ih t ht
      omega
  | token _ _ ih =>
      refine List.forall_mem_cons.mpr ⟨le_refl _, fun t ht => ?_⟩
      have := ih t ht
      omega

private theorem ascending (h : Tiled known n ps w) :
    w.Pairwise fun t u => t.stop ≤ u.start := by
  induction h with
  | nil => exact .nil
  | blank _ _ ih => exact ih
  | token _ hrest ih =>
      refine .cons (fun u hu => ?_) ih
      have := hrest.le_start u hu
      rw [Token.stop, String.length_ofList]
      dsimp only
      omega

private theorem gaps (h : Tiled known n ps w) {i : Nat}
    (hi : ps.flatten[i]? = some c)
    (hfree : ∀ t ∈ w, ¬ (t.start ≤ (n + i : Nat) ∧ (n + i : Nat) < t.stop)) :
    isBlank c = true := by
  induction h generalizing i with
  | nil => cases hi
  | @blank n d ps w hd _ ih =>
      rw [List.flatten_cons, List.singleton_append] at hi
      cases i with
      | zero =>
          cases hi
          exact hd
      | succ i =>
          refine ih hi fun t ht hcovers => hfree t ht ?_
          omega
  | @token n kind p ps w _ _ ih =>
      obtain ⟨hfirst, hrest⟩ := List.forall_mem_cons.mp hfree
      rw [Token.stop, String.length_ofList] at hfirst
      have hi' : p.length ≤ i := by
        by_contra hlt
        exact hfirst ⟨by dsimp only; omega, by dsimp only; omega⟩
      rw [List.flatten_cons, List.getElem?_append_right hi'] at hi
      refine ih hi fun t ht hcovers => hrest t ht ?_
      omega

theorem tiles (h : Tiled known 0 ps w) (hcs : ps.flatten = cs) :
    Tiles known cs ps w where
  texts := h.texts
  lexeme := h.lexeme
  stands := by
    have hstands := h.stands [] rfl
    rwa [List.nil_append, hcs] at hstands
  ascending := h.ascending
  gaps := fun i c hi hfree => by
    rw [← hcs] at hi
    exact h.gaps hi (by rwa [Nat.zero_add])

end Tiled

-- ================================================================= reading

/-- Pieces that make tokens are read, and the reading goes on after them. -/
theorem tokensOfPieces_of_tiled (h : Tiled known n ps w)
    (qs : List (List Char)) :
    tokensOfPieces known n (ps ++ qs) =
      (tokensOfPieces known (n + ps.flatten.length) qs).map (w ++ ·) := by
  induction h with
  | @nil n =>
      rw [List.nil_append, List.flatten_nil, List.length_nil, Nat.add_zero]
      cases tokensOfPieces known n qs <;> rfl
  | @blank n c ps w hc _ ih =>
      rw [List.cons_append, tokensOfPieces, readPiece_blank hc,
        List.flatten_cons, List.length_append, ← Nat.add_assoc]
      exact ih
  | @token n kind p ps w hlexeme _ ih =>
      rw [List.cons_append, tokensOfPieces,
        readPiece_of_spelled (lexeme_iff_spelled.mp hlexeme),
        List.flatten_cons, List.length_append, ← Nat.add_assoc]
      dsimp only
      rw [ih]
      cases tokensOfPieces known (n + p.length + ps.flatten.length) qs <;> rfl

/-- A bad piece ends the reading, whatever comes after it. -/
theorem tokensOfPieces_of_bad {fault : LexErrorKind} (h : Tiled known n ps w)
    (hbad : readPiece known p = .bad fault) (after : List (List Char)) :
    tokensOfPieces known n (ps ++ p :: after) =
      .error ⟨fault, p.headD ' ', (n + ps.flatten.length : Nat),
        String.ofList p⟩ := by
  rw [tokensOfPieces_of_tiled h, tokensOfPieces, hbad]
  rfl

/-- Some pieces of a text make tokens, or those in front of the first bad one
do. -/
theorem tiled_or_bad (known : List String) (n : Nat)
    (hps : ∀ p ∈ ps, p ∈ pieces u) :
    (∃ w, Tiled known n ps w) ∨ ∃ before p after fault w,
      ps = before ++ p :: after ∧ Tiled known n before w ∧
      readPiece known p = .bad fault ∧ Faulty fault p := by
  induction ps generalizing n with
  | nil => exact Or.inl ⟨[], .nil⟩
  | cons p ps ih =>
      obtain ⟨hp, hrest⟩ := List.forall_mem_cons.mp hps
      rcases readPiece_cases known hp with ⟨-, c, rfl, hc⟩
        | ⟨kind, -, hlexeme⟩ |
        ⟨fault, hbad, hfaulty⟩
      · rcases ih (n + 1) hrest with ⟨w, hw⟩ | ⟨before, p, after, fault, w, rfl,
          hw, hbad⟩
        · exact Or.inl ⟨w, .blank hc hw⟩
        · exact Or.inr ⟨[c] :: before, p, after, fault, w, rfl,
            .blank hc hw, hbad⟩
      · rcases ih (n + p.length) hrest with ⟨w, hw⟩ | ⟨before, q, after, fault,
          w, rfl, hw, hbad⟩
        · exact Or.inl ⟨_, .token hlexeme hw⟩
        · exact Or.inr ⟨p :: before, q, after, fault, _, rfl, .token hlexeme hw,
            hbad⟩
      · exact Or.inr ⟨[], p, ps, fault, [], rfl, .nil, hbad, hfaulty⟩

/-- The error is about the first of the pieces that is not allowed. -/
structure LexError.Blames (known : List String) (ps : List (List Char))
    (e : LexError) :
    Prop where
  /-- It has the text of the piece, and its offset. -/
  first : ∃ before after, ps = before ++ e.text.toList :: after ∧
    (∀ p ∈ before, Allowed known p) ∧ e.charIndex = before.flatten.length
  notAllowed : ¬ Allowed known e.text.toList
  char : e.text.toList.head? = some e.char
  kind : Faulty e.kind e.text.toList

/-- A text makes tokens, or its first bad piece is the error. -/
theorem tokensOfText_cases (keywords : List String) (text : String) :
    (∃ w, Tiled (keywords.map upper) 0 (pieces text.toList) w ∧
      tokensOfText keywords text = .ok (w ++ [⟨.eof, "", text.length⟩])) ∨
    ∃ e, tokensOfText keywords text = .error e ∧
      e.Blames (keywords.map upper) (pieces text.toList) := by
  rcases tiled_or_bad (keywords.map upper)
    0 fun _ (hp : _ ∈ pieces text.toList) => hp with
    ⟨w, hw⟩ | ⟨before, p, after, fault, w, hsplit, hw, hbad, hfaulty⟩
  · have hread := tokensOfPieces_of_tiled hw []
    rw [List.append_nil, flatten_pieces, Nat.zero_add, String.length_toList]
      at hread
    exact Or.inl ⟨w, hw, hread⟩
  · have hread := tokensOfPieces_of_bad hw hbad after
    rw [← hsplit, Nat.zero_add] at hread
    have hp : p ∈ pieces text.toList := by
      rw [hsplit]
      exact List.mem_append_right before List.mem_cons_self
    obtain ⟨c, rest, rfl⟩ := List.exists_cons_of_ne_nil
      (List.ne_nil_of_mem_splitBy hp)
    have htext : (String.ofList (c :: rest)).toList = c :: rest :=
      String.toList_ofList
    refine Or.inr ⟨_, hread, ?_⟩
    constructor
    · rw [htext]
      exact ⟨before, after, hsplit, hw.allowed, rfl⟩
    · rw [htext]
      exact not_allowed_of_bad hbad
    · rw [htext]
      rfl
    · rw [htext]
      exact hfaulty

/-- The tokens of a text, whatever the limit. -/
theorem tiles_of_tokenize {limit : Option Int} {text : String}
    {tokens : List Token}
    (h : tokenize keywords limit text = .ok (.ok tokens)) :
    ∃ w, tokens = w ++ [⟨.eof, "", text.length⟩] ∧
      Tiles (keywords.map upper) text.toList (pieces text.toList) w := by
  have htext := tokensOfText_of_tokenize h
  rcases tokensOfText_cases keywords text with ⟨w, hw, hread⟩ | ⟨e, herror, -⟩
  · exact ⟨w, Except.ok.inj (htext.symm.trans hread),
      hw.tiles (flatten_pieces _)⟩
  · cases htext.symm.trans herror

-- ================================================================= result

/-- A text that keeps to the limit is cut in one way, and what becomes of it is
seen from the pieces. If all of them are allowed, the tokens are the pieces that
are not blank, laid out along the text, and the end is at the end of the text.
Otherwise the error is about the first piece that is not allowed. -/
theorem tokenize_tiles {limit : Option Int} {text : String}
    (hlimit : ∀ n, limit = some n → (text.length : Int) ≤ n) :
    ∃ ps, (∀ qs, IsCut text.toList qs ↔ qs = ps) ∧
      (((∀ p ∈ ps, Allowed (keywords.map upper) p) ∧
          ∃ w, tokenize keywords limit text =
            .ok (.ok (w ++ [⟨.eof, "", text.length⟩])) ∧
            Tiles (keywords.map upper) text.toList ps w) ∨
        ∃ e, tokenize keywords limit text = .ok (.error e) ∧
          e.Blames (keywords.map upper) ps) := by
  have htokenize : tokenize keywords limit text =
      .ok (tokensOfText keywords text) := by
    refine (tokenize_cases keywords limit text).resolve_right ?_
    rintro ⟨n, hn, hlt, -⟩
    have := hlimit n hn
    omega
  refine ⟨pieces text.toList, fun qs => isCut_iff, ?_⟩
  rw [htokenize]
  rcases tokensOfText_cases keywords text with ⟨w, hw, hread⟩
    | ⟨e, hread, hblames⟩
  · exact Or.inl ⟨hw.allowed, w, by rw [hread], hw.tiles (flatten_pieces _)⟩
  · exact Or.inr ⟨e, by rw [hread], hblames⟩

/-- A name in mixed case between blanks, and a row number of three digits with a
strange character after it. -/
theorem tokenize_tiles_two_texts :
    let w : List Token := [⟨.number, "1,5", 1⟩, ⟨.operator, "+", 4⟩,
      ⟨.function, "sUm", 6⟩, ⟨.leftParen, "(", 9⟩, ⟨.cell, "A0", 10⟩,
      ⟨.colon, ":", 12⟩, ⟨.cell, "b12", 13⟩, ⟨.rightParen, ")", 16⟩]
    tokenize ["Sum"] (some 17) "\t1,5+ sUm(A0:b12)" =
      .ok (.ok (w ++ [⟨.eof, "", 17⟩])) ∧
      Tiles ["SUM"] "\t1,5+ sUm(A0:b12)".toList
        (pieces "\t1,5+ sUm(A0:b12)".toList) w ∧
      LexError.Blames ["SUM"] (pieces "2*B001?".toList) ⟨.invalidCell, 'B', 2,
        "B001"⟩ := by
  intro w
  have hread : tokenize ["Sum"] (some 17) "\t1,5+ sUm(A0:b12)" =
      .ok (.ok (w ++ [⟨.eof, "", 17⟩])) := rfl
  have hbad : tokenize ["Sum"] (some 17) "2*B001?" =
      .ok (.error ⟨.invalidCell, 'B', 2, "B001"⟩) := rfl
  refine ⟨hread, ?_, ?_⟩
  · obtain ⟨ps, hcut, ⟨-, w', hread', htiles⟩ | ⟨e, herror, -⟩⟩ :=
      @tokenize_tiles ["Sum"] (some 17) "\t1,5+ sUm(A0:b12)"
        (by rintro n ⟨⟩; decide)
    · have hw : w = w' :=
        List.append_cancel_right (Except.ok.inj
          (Except.ok.inj (hread.symm.trans hread')))
      rw [hw, (hcut _).mp (isCut_iff.mpr rfl)]
      exact htiles
    · cases hread.symm.trans herror
  · obtain ⟨ps, hcut, ⟨-, w', hread', -⟩ | ⟨e, herror, hblames⟩⟩ :=
      @tokenize_tiles ["Sum"] (some 17) "2*B001?" (by rintro n ⟨⟩; decide)
    · cases hbad.symm.trans hread'
    · cases hbad.symm.trans herror
      rw [(hcut _).mp (isCut_iff.mpr rfl)]
      exact hblames

end Worksheet
