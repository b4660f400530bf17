/-
Printing an expression and reading it back.

A printed tree is a row of spellings (`Expr.spellings`). No two names or
numbers stand side by side in it, since every operation puts a sign between
its parts, so its text is cut into just these spellings again
(`Writable.pieces_render`). Tokens with these spellings are one factor of
the grammar, and its tree is the printed one up to the offsets
(`Writable.derives`): every operation stands in parentheses of its own,
which leaves nothing for the levels of the signs to decide.

Conversely, every tree of the grammar over the tokens of a text can be
written in this way (`Derives.writable`).
-/
import Mathlib.Data.List.TakeWhile
import Worksheet.Expr.OfText
import Worksheet.Proofs.Expr.Grammar

namespace Worksheet

open Text (upper)

-- ================================================================== signs

section

variable {op : Operator} {known : List String} {text : String}

private theorem Operator.ofSign_sign (hop : ∀ sign, op ≠ .other sign) :
    ofSign op.sign = op := by
  cases op with
  | other sign => exact absurd rfl (hop sign)
  | _ => rfl

private theorem Operator.ofSign_ne_other (htext : text ∈ ["+", "-", "*", "/"])
    (sign : String) :
    ofSign text ≠ .other sign := by
  simp only [List.mem_cons, List.not_mem_nil, or_false] at htext
  rcases htext with rfl | rfl | rfl | rfl <;> exact nofun

private theorem Operator.spelled_sign (hop : ∀ sign, op ≠ .other sign) :
    Spelled known .operator op.sign.toList := by
  cases op with
  | add => exact Or.inl rfl
  | sub => exact Or.inr (Or.inl rfl)
  | mul => exact Or.inr (Or.inr (Or.inl rfl))
  | div => exact Or.inr (Or.inr (Or.inr rfl))
  | other sign => exact absurd rfl (hop sign)

/-- An operation is written as one character, which stands by itself in a
text. -/
private theorem Operator.toList_sign (hop : ∀ sign, op ≠ .other sign) :
    ∃ c, op.sign.toList = [c] ∧ isRunChar c = false := by
  have hspelled : Spelled [] .operator op.sign.toList := spelled_sign hop
  rcases hspelled with h | h | h | h <;> exact ⟨_, h, rfl⟩

end

-- =========================================================== well-formed

/-- The name is that of a cell, with nothing around it. -/
def CellRef.Writable (cell : CellRef) : Prop :=
  (Position.ofChars? cell.name.toList).isSome = true

/-- A function name in capital letters that is known. -/
structure IsCapitalWord (keywords : List String) (name : String) : Prop where
  ne_nil : name.toList ≠ []
  isUpper : ∀ c ∈ name.toList, c.isUpper = true
  known : name ∈ keywords.map upper

theorem IsCapitalWord.upper_eq {keywords : List String} {name : String}
    (h : IsCapitalWord keywords name) : upper name = name :=
  Text.upper_of_isUpper h.isUpper

private theorem IsCapitalWord.spelled {keywords : List String} {name : String}
    (h : IsCapitalWord keywords name) :
    Spelled (keywords.map upper) .function name.toList := by
  refine ⟨h.ne_nil, fun c hc => ?_, ?_⟩
  · simp [Char.isAlpha, h.isUpper c hc]
  · rw [String.ofList_toList, h.upper_eq]
    exact h.known

/-- A function name in any letter case, in capitals. -/
private theorem IsKnownWord.isCapitalWord {keywords : List String}
    {run : List Char} (h : IsKnownWord (keywords.map upper) run) :
    IsCapitalWord keywords (upper (String.ofList run)) := by
  obtain ⟨hne, halpha, hknown⟩ := h
  refine ⟨?_, ?_, hknown⟩
  all_goals
    rw [Text.upper_of_alpha halpha, String.toList_ofList]
  · simpa using hne
  · intro c hc
    obtain ⟨d, hd, rfl⟩ := List.mem_map.mp hc
    rw [Char.isUpper_toUpper_eq_isAlpha]
    exact halpha d hd

namespace Expr

variable {keywords : List String} {tree tree' : Expr} {limit : Option Int}
  {text : String} {w : List Token} {level : Level}

/-- The tree is one that a formula text can stand for, given these function
names. -/
def Writable (keywords : List String) : Expr → Prop
  | number value text _ =>
    isNumeral text.toList = true ∧ value = numeralValue text
  | ref cell => cell.Writable
  | binary op left right _ =>
    (∀ sign, op ≠ .other sign) ∧ left.Writable keywords ∧
    right.Writable keywords
  | aggregate name first last _ =>
    IsCapitalWord keywords name ∧ first.Writable ∧ last.Writable
  | hole _ => False

-- ================================================================ offsets

/-- The tree with all offsets at zero: everything about it but where its parts
start. -/
def unplaced : Expr → Expr
  | number value text _ => number value text 0
  | ref cell => ref { cell with start := 0 }
  | binary op left right _ => binary op left.unplaced right.unplaced 0
  | aggregate name first last _ =>
    aggregate name { first with start := 0 } { last with start := 0 } 0
  | hole text => hole text

private theorem render_unplaced : tree.unplaced.render = tree.render := by
  induction tree with
  | binary op left right start ihl ihr =>
      rw [unplaced, render, render, ihl, ihr]
  | _ => rfl

private theorem hole?_unplaced : tree.unplaced.hole? = tree.hole? := by
  induction tree with
  | binary op left right start ihl ihr => rw [unplaced, hole?, hole?, ihl, ihr]
  | _ => rfl

/-- Offsets are not printed. -/
private theorem format_congr (h : tree'.unplaced = tree.unplaced) :
    tree'.format = tree.format := by
  unfold format
  rw [← hole?_unplaced, ← render_unplaced, h, hole?_unplaced, render_unplaced]

-- ================================================================== texts

/-- What a text is read as: it cannot be cut into tokens because of the limit or
because of a piece, or its tokens make no tree, or they do. -/
theorem ofText_cases (keywords : List String) (limit : Option Int)
    (text : String) :
    (∃ f, tokenize keywords limit text = .error f ∧
      ofText keywords limit text = .error f) ∨
    (∃ e, tokenize keywords limit text = .ok (.error e) ∧
      ofText keywords limit text = .ok (.error (.lex e))) ∨
    ∃ tokens, tokenize keywords limit text = .ok (.ok tokens) ∧
      ((∃ e, ofTokens tokens = .error e ∧
        ofText keywords limit text = .ok (.error (.parse e))) ∨
      ∃ tree, ofTokens tokens = .ok tree ∧
      ofText keywords limit text = .ok (.ok tree)) := by
  unfold ofText
  rcases tokenize keywords limit text with f | e | tokens
  · exact Or.inl ⟨f, rfl, rfl⟩
  · exact Or.inr (Or.inl ⟨e, rfl, rfl⟩)
  · refine Or.inr (Or.inr ⟨tokens, rfl, ?_⟩)
    show (∃ e, _ ∧ Except.ok ((ofTokens tokens).mapError FormulaError.parse) =
      _) ∨
      ∃ tree, _ ∧ Except.ok ((ofTokens tokens).mapError FormulaError.parse) = _
    cases ofTokens tokens with
    | error e => exact Or.inl ⟨e, rfl, rfl⟩
    | ok tree => exact Or.inr ⟨tree, rfl, rfl⟩

theorem ofText_eq_ok_iff : ofText keywords limit text = .ok (.ok tree) ↔
    ∃ tokens, tokenize keywords limit text = .ok (.ok tokens) ∧
      ofTokens tokens = .ok tree := by
  rcases ofText_cases keywords limit text with ⟨f, hcut, h⟩ | ⟨e, hcut, h⟩
    | ⟨tokens, hcut, hrest⟩
  · simp [hcut, h]
  · simp [hcut, h]
  · rcases hrest with ⟨e, hread, h⟩ | ⟨tree', hread, h⟩
    · simp [hcut, hread, h]
    · simp [hcut, hread, h]

-- =============================================================== printing

/-- The spellings of a printed tree, in order. -/
def spellings : Expr → List (TokenKind × List Char)
  | number _ text _ => [(.number, text.toList)]
  | ref cell => [(.cell, cell.name.toList)]
  | binary op left right _ =>
    (.leftParen, ['(']) :: (left.spellings ++ (.operator, op.sign.toList) ::
      (right.spellings ++ [(.rightParen, [')'])]))
  | aggregate name first last _ =>
    [(.function, name.toList), (.leftParen, ['(']), (.cell, first.name.toList),
      (.colon, [':']), (.cell, last.name.toList), (.rightParen, [')'])]
  | hole _ => []

namespace Writable

private theorem hole?_eq_none (h : tree.Writable keywords) :
    tree.hole? = none := by
  induction tree with
  | binary op left right start ihl ihr => rw [hole?, ihl h.2.1, ihr h.2.2]; rfl
  | hole text => cases h
  | _ => rfl

theorem format_eq (h : tree.Writable keywords) :
    tree.format = .ok tree.render := by
  unfold format
  rw [h.hole?_eq_none]

private theorem spelled (h : tree.Writable keywords) :
    ∀ s ∈ tree.spellings, Spelled (keywords.map upper) s.1 s.2 := by
  induction tree with
  | number value text start => exact List.forall_mem_singleton.mpr h.1
  | ref cell => exact List.forall_mem_singleton.mpr h
  | binary op left right start ihl ihr =>
      obtain ⟨hop, hl, hr⟩ := h
      rw [spellings, List.forall_mem_cons, List.forall_mem_append,
        List.forall_mem_cons, List.forall_mem_append, List.forall_mem_singleton]
      exact ⟨rfl, ihl hl, Operator.spelled_sign hop, ihr hr, rfl⟩
  | aggregate name first last start =>
      obtain ⟨hname, hfirst, hlast⟩ := h
      simp only [spellings, List.forall_mem_cons, List.not_mem_nil,
        false_implies, implies_true, and_true]
      exact ⟨hname.spelled, rfl, hfirst, rfl, hlast, rfl⟩
  | hole text => cases h

/-- The text of a tree is cut into its spellings. -/
theorem pieces_render (h : tree.Writable keywords) :
    pieces tree.render.toList = tree.spellings.map (·.2) := by
  induction tree with
  | number value text start => exact pieces_numeral h.1
  | ref cell => exact pieces_cellName h
  | binary op left right start ihl ihr =>
      obtain ⟨hop, hl, hr⟩ := h
      obtain ⟨c, hsign, hc⟩ := Operator.toList_sign hop
      have hchars : (binary op left right start).render.toList =
          '(' :: (left.render.toList ++ c :: (right.render.toList ++
            [')'])) := by
        simp [render, hsign]
      rw [hchars, pieces_cons_sign rfl, pieces_sign hc, pieces_sign rfl,
        ihl hl, ihr hr]
      simp [spellings, hsign, pieces]
  | aggregate name first last start =>
      obtain ⟨hname, hfirst, hlast⟩ := h
      have hchars : (aggregate name first last start).render.toList =
          name.toList ++ '(' :: (first.name.toList ++
            ':' :: (last.name.toList ++ [')'])) := by
        simp [render]
      have hrun : ∀ c ∈ name.toList, isRunChar c = true := fun c hc =>
        isRunChar_of_isAlpha (by simp [Char.isAlpha, hname.isUpper c hc])
      rw [hchars, pieces_sign rfl, pieces_sign rfl, pieces_sign rfl,
        pieces_run hname.ne_nil hrun,
        pieces_cellName hfirst, pieces_cellName hlast]
      rfl
  | hole text => cases h

/-- Tokens that are spelled like a tree are one factor of the grammar, and its
tree is that one up to the offsets. -/
theorem derives (h : tree.Writable keywords)
    (hw : w.map Token.spelling = tree.spellings) :
    ∃ tree', Derives .factor w tree' ∧ tree'.unplaced = tree.unplaced := by
  induction tree generalizing w with
  | number value text start =>
      obtain ⟨t, rfl, ht⟩ := List.map_eq_singleton_iff.mp hw
      obtain ⟨hkind, rfl⟩ := Token.spelling_eq_iff.mp ht
      exact ⟨_, .number hkind, by rw [unplaced, unplaced, h.2]⟩
  | ref cell =>
      obtain ⟨t, rfl, ht⟩ := List.map_eq_singleton_iff.mp hw
      obtain ⟨hkind, htext⟩ := Token.spelling_eq_iff.mp ht
      exact ⟨_, .cell hkind, by rw [unplaced, unplaced, htext]⟩
  | binary op left right start ihl ihr =>
      obtain ⟨hop, hl, hr⟩ := h
      obtain ⟨l, w, rfl, hlparen, hw⟩ := List.map_eq_cons_iff.mp hw
      obtain ⟨u, w, rfl, hu, hw⟩ := List.map_eq_append_iff.mp hw
      obtain ⟨o, w, rfl, ho, hw⟩ := List.map_eq_cons_iff.mp hw
      obtain ⟨v, w, rfl, hv, hw⟩ := List.map_eq_append_iff.mp hw
      obtain ⟨r, rfl, hrparen⟩ := List.map_eq_singleton_iff.mp hw
      obtain ⟨left', hleft, heql⟩ := ihl hl hu
      obtain ⟨right', hright, heqr⟩ := ihr hr hv
      obtain ⟨hkind, htext⟩ := Token.spelling_eq_iff.mp ho
      have hspelled : Spelled [] o.kind o.text.toList := by
        rw [hkind, htext]
        exact Operator.spelled_sign hop
      have hsum : Derives .sum (u ++ o :: v)
          (.binary (.ofSign o.text) left' right' left'.start) := by
        rcases (regular_of_spelled hspelled).isSign hkind with hsign | hsign
        · exact (hleft.toProduct.times hsign hright).toSum
        · exact hleft.toProduct.toSum.plus hsign hright.toProduct
      have hparens := Derives.parens (Prod.mk.inj hlparen).1 hsum
        (Prod.mk.inj hrparen).1
      rw [List.append_assoc] at hparens
      refine ⟨_, hparens, ?_⟩
      rw [unplaced, unplaced, heql, heqr, htext, Operator.ofSign_sign hop]
  | aggregate name first last start =>
      obtain ⟨hname, -, -⟩ := h
      obtain ⟨f, w, rfl, hf, hw⟩ := List.map_eq_cons_iff.mp hw
      obtain ⟨l, w, rfl, hl, hw⟩ := List.map_eq_cons_iff.mp hw
      obtain ⟨a, w, rfl, ha, hw⟩ := List.map_eq_cons_iff.mp hw
      obtain ⟨c, w, rfl, hc, hw⟩ := List.map_eq_cons_iff.mp hw
      obtain ⟨b, w, rfl, hb, hw⟩ := List.map_eq_cons_iff.mp hw
      obtain ⟨r, rfl, hr⟩ := List.map_eq_singleton_iff.mp hw
      obtain ⟨hfkind, hftext⟩ := Token.spelling_eq_iff.mp hf
      obtain ⟨hakind, hatext⟩ := Token.spelling_eq_iff.mp ha
      obtain ⟨hbkind, hbtext⟩ := Token.spelling_eq_iff.mp hb
      refine ⟨_, .aggregate hfkind (Prod.mk.inj hl).1 hakind (Prod.mk.inj hc).1
        hbkind (Prod.mk.inj hr).1, ?_⟩
      rw [unplaced, unplaced, hftext, hatext, hbtext, hname.upper_eq]
  | hole text => cases h

/-- The printed text of a tree is read as that tree, up to the offsets. -/
theorem ofText_render (h : tree.Writable keywords) :
    ∃ tree', ofText keywords none tree.render = .ok (.ok tree') ∧
      tree'.unplaced = tree.unplaced := by
  obtain ⟨tokens, htokens, hspell⟩ := @tokensOfPieces_of_spellings
    (keywords.map upper) 0 tree.spellings h.spelled
  rw [← h.pieces_render] at htokens
  obtain ⟨w, e, rfl, hw, he⟩ := List.map_eq_append_iff.mp hspell
  obtain ⟨eof, rfl, heof⟩ := List.map_eq_singleton_iff.mp he
  obtain ⟨tree', htree, heq⟩ := h.derives hw
  refine ⟨tree', ?_, heq⟩
  have hne : ∀ t ∈ w, t.kind ≠ .eof := fun t ht hkind => by
    have hspelled := h.spelled t.spelling (hw ▸ List.mem_map_of_mem ht)
    rw [Token.spelling, hkind] at hspelled
    exact hspelled
  have hread : ofTokens (w ++ [eof]) = .ok tree' := by
    refine ofTokens_of_derives ?_
    rw [word_append_eof hne (Prod.mk.inj heof).1]
    exact htree.toProduct.toSum
  refine ofText_eq_ok_iff.mpr ⟨w ++ [eof], ?_, hread⟩
  unfold tokenize tokensOfText
  rw [htokens]

end Writable

-- ================================================================ reading

/-- A chain of writable operands is writable. -/
private theorem Writable.foldl {links : List Link} {signs : List String}
    (h : tree.Writable keywords) (hsub : signs ⊆ ["+", "-", "*", "/"])
    (hsigns : ∀ l ∈ links, l.sign.IsSign signs)
    (hrest : ∀ l ∈ links, l.tree.Writable keywords) :
    (links.foldl Link.onto tree).Writable keywords := by
  induction links generalizing tree with
  | nil => exact h
  | cons l links ih =>
      have hop := Operator.ofSign_ne_other
        (hsub (hsigns l List.mem_cons_self).2)
      exact ih ⟨hop, h, hrest l List.mem_cons_self⟩
        (fun k hk => hsigns k (List.mem_cons_of_mem _ hk))
        fun k hk => hrest k (List.mem_cons_of_mem _ hk)

/-- The tree of tokens that are cut from a text can be written. -/
theorem Derives.writable (h : Derives level w tree)
    (hw : ∀ t ∈ w, Spelled (keywords.map upper) t.kind t.text.toList) :
    tree.Writable keywords := by
  induction h with
  | @number t hkind =>
      have ht := hw t List.mem_cons_self
      rw [hkind] at ht
      exact ⟨ht, rfl⟩
  | @cell t hkind =>
      have ht := hw t List.mem_cons_self
      rw [hkind] at ht
      exact ht
  | @aggregate f l a c b r hf hl ha hc hb hr =>
      have hname := hw f (by simp)
      have hfirst := hw a (by simp)
      have hlast := hw b (by simp)
      rw [hf] at hname
      rw [ha] at hfirst
      rw [hb] at hlast
      have hcapital := IsKnownWord.isCapitalWord hname
      rw [String.ofList_toList] at hcapital
      exact ⟨hcapital, hfirst, hlast⟩
  | parens hl _ hr ih =>
      exact ih fun t ht => hw t (List.mem_cons_of_mem _
        (List.mem_append_left _ ht))
  | product _ hsigns _ ihfirst ihrest =>
      refine (ihfirst fun t ht => hw t (List.mem_append_left _ ht)).foldl
        (by simp) hsigns
        fun l hl => ihrest l hl fun t ht => hw t (List.mem_append_right _ ?_)
      exact List.mem_flatMap.mpr ⟨l, hl, List.mem_cons_of_mem _ ht⟩
  | sum _ hsigns _ ihfirst ihrest =>
      refine (ihfirst fun t ht => hw t (List.mem_append_left _ ht)).foldl
        (by simp) hsigns
        fun l hl => ihrest l hl fun t ht => hw t (List.mem_append_right _ ?_)
      exact List.mem_flatMap.mpr ⟨l, hl, List.mem_cons_of_mem _ ht⟩

/-- Every tree that a text is read as can be written. -/
theorem writable_of_ofText (h : ofText keywords limit text = .ok (.ok tree)) :
    tree.Writable keywords := by
  obtain ⟨tokens, htokens, hread⟩ := ofText_eq_ok_iff.mp h
  refine (derives_of_ofTokens (regular_of_tokenize htokens) hread).writable
    fun t ht => ?_
  have hmem := (List.takeWhile_prefix _).subset ht
  refine (spelled_of_tokenize htokens t hmem).resolve_left ?_
  simpa using List.mem_takeWhile_imp ht

-- ================================================================= result

/-- Printing and reading are inverse up to the offsets: a writable tree is
printed, and its text is read as that tree. The trees that texts are read as are
writable, and printed, read and printed again they give the same text as at
first. -/
theorem ofText_format (keywords : List String) :
    (∀ tree : Expr, tree.Writable keywords →
      ∃ printed tree', tree.format = .ok printed ∧
        ofText keywords none printed = .ok (.ok tree') ∧
        tree'.unplaced = tree.unplaced) ∧
    ∀ limit text tree, ofText keywords limit text = .ok (.ok tree) →
      tree.Writable keywords ∧
      ∃ printed tree', tree.format = .ok printed ∧
        ofText keywords none printed = .ok (.ok tree') ∧
        tree'.format = .ok printed := by
  have hround : ∀ tree : Expr, tree.Writable keywords → ∃ printed tree',
      tree.format = .ok printed ∧ ofText keywords none printed =
        .ok (.ok tree') ∧ tree'.unplaced = tree.unplaced := fun tree h => by
    obtain ⟨tree', hread, heq⟩ := h.ofText_render
    exact ⟨tree.render, tree', h.format_eq, hread, heq⟩
  refine ⟨hround, fun limit text tree h => ⟨writable_of_ofText h, ?_⟩⟩
  obtain ⟨printed, tree', hformat, hread, heq⟩ :=
    hround tree (writable_of_ofText h)
  exact ⟨printed, tree', hformat, hread, (format_congr heq).trans hformat⟩

/-- The first printing makes every grouping visible and puts names in
capitals. -/
theorem ofText_format_capitals :
    let tree : Expr := .binary .sub (.aggregate "SUM" ⟨"a0", 6⟩ ⟨"B1", 9⟩ 2)
      (.number (numeralValue "2,5") "2,5" 15) 2
    ofText ["Sum"] (some 20) "((sum(a0:B1)))-2,5" = .ok (.ok tree) ∧
    tree.Writable ["Sum"] ∧
      (∃ tree', ofText ["Sum"] none "(SUM(a0:B1)-2,5)" = .ok (.ok tree') ∧
        tree'.unplaced = tree.unplaced) ∧
      ∃ tree', ofText ["Sum"] none "(SUM(a0:B1)-2,5)" = .ok (.ok tree') ∧
        tree'.format = .ok "(SUM(a0:B1)-2,5)" := by
  intro tree
  have hfirst : ofText ["Sum"] (some 20) "((sum(a0:B1)))-2,5" =
    .ok (.ok tree) := rfl
  have hprint : tree.format = .ok "(SUM(a0:B1)-2,5)" := rfl
  obtain ⟨hwritable, printed, again, hformat, hread, hagain⟩ :=
    (ofText_format ["Sum"]).2 _ _ _ hfirst
  obtain ⟨printed', tree', hformat', hread', heq⟩ :=
    (ofText_format ["Sum"]).1 tree hwritable
  cases hprint.symm.trans hformat
  cases hprint.symm.trans hformat'
  exact ⟨hfirst, hwritable, ⟨tree', hread', heq⟩, again, hread, hagain⟩

end Expr

end Worksheet
