/-
Numbers, written as they are and behind the marker.

A content that is no formula is a number if a numeral is left of it without the
blanks at its ends. Behind the marker the same text is cut into tokens, read as
an expression and evaluated. The two ways agree.

Blanks are pieces by themselves, and none of them clings to a numeral. So a
numeral between blanks is cut into one number, the blanks leaving no trace but
its offset (`tokenize_of_isNumeral`). Conversely, around the only token of a
text there are blanks alone, so the token is what is left of the text without
them (`strip_of_tokenize`). A numeral may be followed by a line end where a
content is looked at, but a line end is blank and has been taken off by then
(`isNumeralLine_strip`).

The expression of one number is that number. It asks nothing of the grid, so it
has the same value in every cell and reads none.
-/
import Worksheet.Proofs.CellName.Positions
import Worksheet.Proofs.Expr.RoundTrip
import Worksheet.Proofs.Grid.Evaluate
import Worksheet.Proofs.Token.Append

namespace Worksheet

open Text (isBlank stripChars strip)

variable {known keywords : List String} {cs before mid after u : List Char}
  {ps : List (List Char)} {w : List Token} {t e : Token} {n : Nat}
  {limit : Option Int} {text : String}

-- ============================================================== stripping

/-- Only blanks are stripped off. -/
private theorem exists_stripChars (cs : List Char) : ∃ before after,
    cs = before ++ (stripChars cs ++ after) ∧
      (∀ c ∈ before, isBlank c = true) ∧ ∀ c ∈ after, isBlank c = true := by
  refine ⟨cs.takeWhile isBlank, ((cs.dropWhile isBlank).reverse.takeWhile
    isBlank).reverse, ?_,
    fun c hc => List.mem_takeWhile_imp hc,
    fun c hc => List.mem_takeWhile_imp (List.mem_reverse.mp hc)⟩
  unfold stripChars
  rw [← List.reverse_append, List.takeWhile_append_dropWhile,
    List.reverse_reverse, List.takeWhile_append_dropWhile]

/-- All blanks around something without blanks are stripped off. -/
private theorem stripChars_append (hbefore : ∀ c ∈ before, isBlank c = true)
    (hafter : ∀ c ∈ after, isBlank c = true)
    (hmid : ∀ c ∈ mid, isBlank c = false)
    (hne : mid ≠ []) : stripChars (before ++ (mid ++ after)) = mid := by
  obtain ⟨c, rest, rfl⟩ := List.exists_cons_of_ne_nil hne
  have hc : ¬ isBlank c = true := Bool.eq_false_iff.mp
    (hmid c List.mem_cons_self)
  have hfront : (before ++ (c :: rest ++ after)).dropWhile isBlank =
      c :: rest ++ after := by
    rw [List.dropWhile_append_of_pos hbefore, List.cons_append,
      List.dropWhile_cons_of_neg hc]
  unfold stripChars
  rw [hfront, List.reverse_append,
    List.dropWhile_append_of_pos fun d hd => hafter d (List.mem_reverse.mp hd)]
  have hself := stripChars_eq_self hmid
  unfold stripChars at hself
  rwa [List.dropWhile_cons_of_neg hc] at hself

/-- No blank is left at the end. -/
private theorem getLast?_stripChars {c : Char}
    (h : (stripChars cs).getLast? = some c) :
    isBlank c = false := by
  unfold stripChars at h
  rw [List.getLast?_reverse] at h
  have hhead := List.head?_dropWhile_not isBlank (cs.dropWhile isBlank).reverse
  rw [h] at hhead
  exact Bool.eq_false_iff.mpr (by simpa using hhead)

/-- Without the blanks around it a text has no line end, so it is a numeral or
not. -/
theorem isNumeralLine_strip :
    isNumeralLine (strip text) = isNumeral (stripChars text.toList) := by
  unfold isNumeralLine strip
  rw [String.toList_ofList]
  have hend : ((stripChars text.toList).getLast? == some '\n') = false := by
    rw [beq_eq_false_iff_ne]
    intro hlast
    have := getLast?_stripChars hlast
    exact absurd this (by decide)
  rw [hend, Bool.false_and, Bool.or_false]

-- ============================================================= one number

private theorem isRunChar_of_isBlank {c : Char} (hc : isBlank c = true) :
    isRunChar c = false := by
  rw [← Bool.not_eq_true]
  intro hrun
  rw [isBlank_of_isRunChar hrun] at hc
  cases hc

/-- Blanks in front of some pieces make no tokens. -/
private theorem tiled_of_blanks (hbefore : ∀ c ∈ before, isBlank c = true)
    (h : Tiled known (n + before.length) (pieces u) w) :
    Tiled known n (pieces (before ++ u)) w := by
  induction before generalizing n with
  | nil => exact h
  | cons c rest ih =>
      obtain ⟨hc, hrest⟩ := List.forall_mem_cons.mp hbefore
      rw [List.cons_append, pieces_cons_sign (isRunChar_of_isBlank hc)]
      refine .blank hc (ih hrest ?_)
      rwa [List.length_cons, Nat.add_comm rest.length, ← Nat.add_assoc] at h

/-- A numeral between blanks is one number. -/
private theorem tiled_of_isNumeral (hmid : isNumeral mid = true)
    (hbefore : ∀ c ∈ before, isBlank c = true)
    (hafter : ∀ c ∈ after, isBlank c = true) :
    Tiled known 0 (pieces (before ++ (mid ++ after)))
      [⟨.number, String.ofList mid, before.length⟩] := by
  have hseam : ¬ Joins mid after := by
    rintro ⟨c, d, -, hd, -, hrun⟩
    rw [isRunChar_of_isBlank (hafter d (List.mem_of_mem_head? hd))] at hrun
    cases hrun
  refine tiled_of_blanks hbefore ?_
  rw [Nat.zero_add, pieces_append hseam, pieces_numeral hmid,
    List.singleton_append]
  refine .token (lexeme_iff_spelled.mpr hmid) ?_
  rw [← List.append_nil after]
  exact tiled_of_blanks hafter .nil

section

variable (hlimit : ∀ n, limit = some n → (text.length : Int) ≤ n)

include hlimit

/-- A text of which a numeral is left without blanks is one number. -/
theorem tokenize_of_isNumeral (h : isNumeral (stripChars text.toList) = true) :
    ∃ start, tokenize keywords limit text =
      .ok (.ok [⟨.number, strip text, start⟩, ⟨.eof, "", text.length⟩]) := by
  obtain ⟨before, after, hsplit, hbefore, hafter⟩ :=
    exists_stripChars text.toList
  have htiled := @tiled_of_isNumeral (keywords.map Text.upper) before _ after h
    hbefore hafter
  rw [← hsplit] at htiled
  have hread := tokensOfPieces_of_tiled htiled []
  rw [List.append_nil, flatten_pieces, Nat.zero_add, String.length_toList]
    at hread
  exact ⟨before.length, (tokenize_of_short hlimit).trans
    (congrArg Except.ok hread)⟩

end

/-- Around the only token of a text there are blanks alone. -/
private theorem blank_around (h : Tiles known cs ps [t]) : ∃ before after,
    cs = before ++ (t.text.toList ++ after) ∧
      (∀ c ∈ before, isBlank c = true) ∧ ∀ c ∈ after, isBlank c = true := by
  obtain ⟨before, after, hsplit, hstart⟩ := h.stands t List.mem_cons_self
  have hstop : t.stop = (before ++ t.text.toList).length := by
    rw [Token.stop, hstart, List.length_append, String.length_toList,
      Nat.cast_add]
  refine ⟨before, after, hsplit, fun c hc => ?_, fun c hc => ?_⟩
  · obtain ⟨i, hi, hget⟩ := List.mem_iff_getElem.mp hc
    refine h.gaps i c ?_ fun u hu => ?_
    · rw [hsplit, List.getElem?_append_left hi, List.getElem?_eq_getElem hi,
        hget]
    · rw [List.mem_singleton.mp hu]
      omega
  · obtain ⟨i, hi, hget⟩ := List.mem_iff_getElem.mp hc
    refine h.gaps ((before ++ t.text.toList).length + i) c ?_ fun u hu => ?_
    · rw [hsplit, ← List.append_assoc, List.getElem?_append_right
        (Nat.le_add_right _ i),
        Nat.add_sub_cancel_left, List.getElem?_eq_getElem hi, hget]
    · rw [List.mem_singleton.mp hu]
      omega

/-- If a text is one number, this is a numeral, and it is what is left without
blanks. -/
theorem strip_of_tokenize (h : tokenize keywords limit text = .ok (.ok [t, e]))
    (hkind : t.kind = .number) :
    isNumeral (stripChars text.toList) = true ∧ t.text = strip text := by
  obtain ⟨w, htokens, htiles⟩ := tiles_of_tokenize h
  obtain ⟨rfl, -⟩ : [t] = w ∧ [e] = _ := List.append_inj' htokens rfl
  have hnumeral : isNumeral t.text.toList = true := by
    have hlexeme := lexeme_iff_spelled.mp (htiles.lexeme t List.mem_cons_self)
    rwa [hkind] at hlexeme
  obtain ⟨⟨d, rest, htext, -⟩, hrun⟩ := run_of_isNumeral hnumeral
  obtain ⟨before, after, hsplit, hbefore, hafter⟩ := blank_around htiles
  have hstrip : stripChars text.toList = t.text.toList := by
    rw [hsplit]
    exact stripChars_append hbefore hafter (fun c hc => isBlank_of_isRunChar
      (hrun c hc)) (htext ▸ List.cons_ne_nil d rest)
  rw [strip, hstrip, String.ofList_toList]
  exact ⟨hnumeral, rfl⟩

-- =============================================================== formulas

/-- The expression of one number is this number. -/
private theorem Expr.ofTokens_number (text : String) (start : Int) (e : Token)
    (he : e.kind = .eof) :
    Expr.ofTokens [⟨.number, text, start⟩, e] =
      .ok (.number (numeralValue text) text start) := by
  show State.read _ _ 1 [e] = _
  rw [State.read, if_pos he]
  rfl

namespace Settings

variable {s : Settings}

/-- A content that does not begin with the marker is no formula. -/
private theorem formula?_eq_none_iff :
    s.formula? text = none ↔ ¬ s.marker.toList <+: text.toList := by
  unfold formula?
  rw [← List.isPrefixOf_iff_prefix]
  split <;> simp_all

/-- A number behind the marker is to be evaluated. -/
private theorem body?_of_isNumeral
    (h : isNumeral (stripChars text.toList) = true) :
    s.body? (s.marker ++ text) = some text := by
  obtain ⟨⟨d, rest, hchars, -⟩, hrun⟩ := run_of_isNumeral h
  obtain ⟨before, after, hsplit, -⟩ := exists_stripChars text.toList
  have hd : d ∈ text.toList := by
    rw [hsplit, hchars]
    simp
  exact body?_marker hd (isBlank_of_isRunChar (hrun d (by simp [hchars])))

end Settings

namespace Grid

variable {g : Grid} {i : Int} {s : Settings} {v : Float} {new : Cell}

/-- A number behind the marker is worth what it is worth alone, and reads
nothing. -/
private theorem evaluateFormula_number
    (hlimit : ∀ n, s.maxLength = some n → (text.length : Int) ≤ n)
    (h : isNumeral (stripChars text.toList) = true) :
    g.evaluateFormula i text s = .ok (.ok ⟨numeralValue (strip text), []⟩) := by
  obtain ⟨start, htokens⟩ := @tokenize_of_isNumeral s.registry.names _
    _ hlimit h
  rw [evaluateFormula_of_tree (Expr.ofText_eq_ok_iff.mpr
    ⟨_, htokens, Expr.ofTokens_number _ start _ rfl⟩)]
  rfl

/-- A content that is no formula and has a value is a numeral, blanks around it
aside. -/
private theorem numeral_of_evaluate
    (hmarker : ¬ s.marker.toList <+: text.toList)
    (heval : g.evaluate i text s = .ok (.ok new))
    (hvalue : new.value = some v) :
    isNumeral (stripChars text.toList) = true ∧
      v = numeralValue (strip text) := by
  have hformula := Settings.formula?_eq_none_iff.mpr hmarker
  rcases evaluateBy_eq_ok heval with ⟨-, rfl⟩ | ⟨formula, e, hbody, -⟩
  · have hconstant : numberOfContent? text = some v := by
      rw [← hvalue]
      simp only [Cell.withConstant, Settings.constant, hformula]
    unfold numberOfContent? at hconstant
    dsimp only at hconstant
    split at hconstant
    · next hline =>
      rw [isNumeralLine_strip] at hline
      exact ⟨hline, (Option.some.inj hconstant).symm⟩
    · cases hconstant
  · rw [(Settings.body?_eq_some_iff.mp hbody).1] at hformula
    cases hformula

-- ================================================================= result

/-- A content and a formula read numbers alike. What is left of a text without
blanks is a numeral just if the text is cut into one number, which then has this
very text. A text that comes to a number by itself comes to the same number
behind the marker, in any cell, and reads no other cell there. -/
theorem numbers_read_alike (text : String) :
    (∀ keywords limit, (∀ n, limit = some n → (text.length : Int) ≤ n) →
      (isNumeralLine (strip text) = true ↔
        ∃ t e, tokenize keywords limit text = .ok (.ok [t, e]) ∧
          t.kind = .number ∧ e.kind = .eof) ∧
      ∀ t e, tokenize keywords limit text = .ok (.ok [t, e]) →
        t.kind = .number → t.text = strip text) ∧
    ∀ (g : Grid) (i : Int) (s : Settings) (new : Cell) (v : Float),
      (∀ n, s.maxLength = some n → (text.length : Int) ≤ n) →
      ¬ s.marker.toList <+: text.toList →
      g.evaluate i text s = .ok (.ok new) → new.value = some v →
      g.evaluate i (s.marker ++ text) s = .ok (.ok { g.cellAt i with
        content := s.marker ++ text
        value := some v
        dependencies := [] }) := by
  constructor
  · intro keywords limit hlimit
    refine ⟨⟨fun h => ?_, ?_⟩, fun t e h hkind => (strip_of_tokenize h hkind).2⟩
    · rw [isNumeralLine_strip] at h
      obtain ⟨start, htokens⟩ := @tokenize_of_isNumeral keywords _ _ hlimit h
      exact ⟨_, _, htokens, rfl, rfl⟩
    · rintro ⟨t, e, h, hkind, -⟩
      rw [isNumeralLine_strip]
      exact (strip_of_tokenize h hkind).1
  · intro g i s new v hlimit hmarker heval hvalue
    obtain ⟨hnumeral, hv⟩ := numeral_of_evaluate hmarker heval hvalue
    have hformula : g.evaluate i (s.marker ++ text) s = _ :=
      evaluateBy_formula (cell_of_evaluateBy heval)
        (Settings.body?_of_isNumeral hnumeral)
    rw [hformula, evaluateFormula_number hlimit hnumeral, ← hv]
    rfl

/-- A comma, blanks of other kinds than a space and a line end at the end of the
text. The marker has two characters, the length is just at the limit, and the
cell is counted from the end. -/
theorem numbers_read_alike_comma :
    let text := "\u2003 1,50\t\n"
    let s : Settings := ⟨":=", some 8, none⟩
    let g : Grid := ⟨#[⟨0, "", none, [], []⟩, ⟨1, "=A0", none, [0], [1]⟩], 1⟩
    (isNumeralLine (strip text) = true ∧ ∃ t e,
      tokenize ["SUM"] none text = .ok (.ok [t, e]) ∧ t.kind = .number ∧
      e.kind = .eof ∧ t.text = "1,50") ∧
      ∃ new, g.evaluate (-1) text s = .ok (.ok new) ∧
        new.value = some (numeralValue "1,50") ∧
        g.evaluate (-1) (s.marker ++ text) s =
          .ok (.ok ⟨1, s.marker ++ text, some (numeralValue "1,50"), [],
            [1]⟩) := by
  intro text s g
  obtain ⟨htokens, hvalues⟩ := numbers_read_alike text
  have hstrip : strip text = "1,50" := by decide +kernel
  have hline : isNumeralLine (strip text) = true := by decide +kernel
  have hvalue : numberOfContent? text = some (numeralValue "1,50") := by
    unfold numberOfContent?
    dsimp only
    rw [if_pos hline, hstrip]
  obtain ⟨hiff, htext⟩ := htokens ["SUM"] none nofun
  obtain ⟨t, e, hread, hkind, heof⟩ := hiff.mp hline
  have hmarker : ¬ s.marker.toList <+: text.toList := by decide
  have heval : g.evaluate (-1) text s = .ok
      (.ok ((g.cellAt (-1)).withConstant text (some (numeralValue "1,50"))))
        := by
    unfold evaluate evaluateBy
    rw [Settings.formula?_eq_none_iff.mpr hmarker, hvalue]
    rfl
  refine ⟨⟨hline, t, e, hread, hkind, heof, (htext t e hread hkind).trans
    hstrip⟩, _, heval,
    rfl, ?_⟩
  exact hvalues g (-1) s _ _ (by rintro n ⟨⟩; decide) hmarker heval rfl

end Grid

end Worksheet
