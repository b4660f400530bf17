/-
Where the errors of a formula stand.

Each error points into the text of its formula, and the offset is found while
the text is cut, while the tokens are read or while the tree is evaluated. In
each case it is the offset of something that was written there: of a piece that
is no token, of a token that does not fit, or of the part of the tree that has
no value.

The last case is the one that is far from the text. An evaluation blames a node
of its tree (`run_error_mem_parts`), nodes begin where the part written first in
them does, and this part begins with a token (`Anchored.start_eq`).

Only two errors are not about anything written: a formula that stops too early
is blamed at its end, and one that is too long at the length that is allowed.
-/
import Worksheet.Proofs.Expr.Completion
import Worksheet.Proofs.Expr.Offsets
import Worksheet.Proofs.Grid.Evaluate

namespace Worksheet

open Text (upper isBlank)

variable {known keywords : List String} {limit : Option Int} {text : String}
  {cs p : List Char} {c : Char} {n : Int}

-- ================================================================= pieces

private theorem StandsAt.bounds (h : StandsAt cs n (c :: p)) :
    0 ≤ n ∧ n < cs.length := by
  obtain ⟨before, after, rfl, rfl⟩ := h
  simp only [List.length_append, List.length_cons]
  omega

/-- A piece that is not allowed begins with a character that is not blank. -/
private theorem Faulty.head {fault : LexErrorKind} (h : Faulty fault p)
    (hp : ¬ Allowed known p) :
    ∃ c rest, p = c :: rest ∧ isBlank c = false := by
  cases h with
  | @character c _ =>
      refine ⟨c, [], rfl, ?_⟩
      by_contra hblank
      exact hp (Or.inl ⟨c, rfl, Bool.not_eq_false _ ▸ hblank⟩)
  | number hc =>
      refine ⟨_, _, rfl, isBlank_of_isRunChar ?_⟩
      rcases hc with hdigit | rfl | rfl
      · exact isRunChar_of_isDigit hdigit
      · decide
      · decide
  | letter hc =>
      exact ⟨_, _, rfl, isBlank_of_isRunChar (isRunChar_of_isAlpha hc)⟩
  | cell hc => exact ⟨_, _, rfl, isBlank_of_isRunChar (isRunChar_of_isAlpha hc)⟩
  | function hc =>
      exact ⟨_, _, rfl, isBlank_of_isRunChar (isRunChar_of_isAlpha hc)⟩

/-- The bad piece stands in the text at the offset of the error. -/
private theorem LexError.Blames.standsAt {e : LexError}
    (h : e.Blames known (pieces cs)) :
    StandsAt cs e.charIndex e.text.toList := by
  obtain ⟨before, after, hsplit, -, hindex⟩ := h.first
  refine ⟨before.flatten, after.flatten, ?_, hindex⟩
  rw [← List.flatten_cons, ← List.flatten_append, ← hsplit, flatten_pieces]

/-- A text that is not cut into tokens is too long, or has a bad piece. -/
theorem tokenize_eq_error {e : LexError}
    (h : tokenize keywords limit text = .ok (.error e)) :
    (e.kind = .tooLong ∧ ∃ n, limit = some n ∧ n < text.length ∧
      e.charIndex = n) ∨
      e.Blames (keywords.map upper) (pieces text.toList) := by
  rcases tokenize_cases keywords limit text with
    hread | ⟨n, hlimit, hn, ⟨c, hlong⟩ | ⟨-, hfault⟩⟩
  · have herror := Except.ok.inj (hread.symm.trans h)
    rcases tokensOfText_cases keywords text
      with ⟨w, -, hok⟩ | ⟨e', herror', hblames⟩
    · cases hok.symm.trans herror
    · cases herror'.symm.trans herror
      exact Or.inr hblames
  · cases hlong.symm.trans h
    exact Or.inl ⟨rfl, n, hlimit, hn, rfl⟩
  · cases hfault.symm.trans h

-- ================================================================== nodes

namespace Expr

variable {e tree : Expr} {w : List Token} {source : Source}
  {functions : Registry} {t : Trace} {err : EvalError} {perr : ParseError}

/-- The token that does not fit is one of the tokens, the end included. -/
private theorem received_mem
    (h : ofTokens (w ++ [⟨.eof, "", n⟩]) = .error perr) :
    perr.received ∈ w ++ [⟨.eof, "", n⟩] := by
  obtain ⟨front, rest, last, hsplit, -, -, -, hreceived, -⟩ :=
    State.read_eq_error rfl h
  rw [hreceived, hsplit]
  cases rest with
  | cons t rest => exact List.mem_append_right front List.mem_cons_self
  | nil =>
      rw [List.append_nil] at hsplit ⊢
      rw [← hsplit]
      simp [endToken, Token.stop]

private theorem mem_parts (e : Expr) : e ∈ e.parts := by
  cases e <;> exact List.mem_cons_self

/-- An operation blames nothing but its right part. -/
private theorem node_of_apply {op : Operator} {x y : Float} {right : Expr}
    (h : op.apply x y right = .ok (.error err)) : err.node = right := by
  rcases op.apply_cases x y right with
    ⟨sign, -, happly⟩ | ⟨-, -, happly⟩ | ⟨f, -, -, happly⟩
  all_goals cases happly.symm.trans h
  rfl

/-- An evaluation blames a node of its tree. -/
theorem run_error_mem_parts
    (h : (e.run source functions t).1 = .ok (.error err)) :
    err.node ∈ e.parts := by
  induction e generalizing t with
  | number value text start => cases h
  | ref cell =>
      rw [run] at h
      split at h <;> cases h
      exact List.mem_cons_self
  | binary op left right start ihl ihr =>
      rw [run_binary] at h
      rcases op.inTurn_cases right (left.run source functions)
          (right.run source functions) t
        with ⟨-, heq⟩ | ⟨x, t₁, -, ⟨-, heq⟩ | ⟨y, t₂, -, heq⟩⟩
      all_goals rw [heq] at h
      · exact List.mem_cons_of_mem _ (List.mem_append_left _ (ihl h))
      · exact List.mem_cons_of_mem _ (List.mem_append_right _ (ihr h))
      · rw [node_of_apply h]
        exact List.mem_cons_of_mem _
          (List.mem_append_right _ (mem_parts right))
  | aggregate name first last start =>
      rw [run] at h
      split at h
      · cases h
        exact List.mem_cons_self
      · split at h
        · split at h <;> cases h
          exact List.mem_cons_self
        · cases h
          exact List.mem_cons_self
        · cases h
  | hole text => cases h

end Expr

-- ================================================================== places

/-- The formula stops too early. -/
def FormulaError.AtEnd : FormulaError → Prop
  | .parse e => e.received.kind = .eof
  | _ => False

/-- The formula is longer than it may be. -/
def FormulaError.TooLong : FormulaError → Prop
  | .lex e => e.kind = .tooLong
  | _ => False

/-- What the error is about, as it is written in the text. -/
inductive FormulaError.About (keywords : List String) (limit : Option Int)
    (text : String) :
    FormulaError → List Char → Prop where
  /-- The first piece that is no token. -/
  | piece {e : LexError} : e.Blames (keywords.map upper) (pieces text.toList) →
      About keywords limit text (.lex e) e.text.toList
  /-- The token that does not fit. -/
  | token {e : ParseError} {tokens : List Token} :
      tokenize keywords limit text = .ok (.ok tokens) → e.received ∈ tokens →
      e.received.kind ≠ .eof → About keywords limit text (.parse e)
          e.received.text.toList
  /-- The first leaf of the part that has no value. -/
  | leaf {e : EvalError} {tree : Expr} : Expr.ofText keywords limit text =
      .ok (.ok tree) →
      e.node ∈ tree.parts → e.node.leaves.head? = some e.node.leftmost →
      About keywords limit text (.eval e) e.node.leftmost.render.toList
  /-- The name of the function that this part begins with. -/
  | function {e : EvalError} {tree : Expr} {tokens : List Token} {k : Token} :
      Expr.ofText keywords limit text = .ok (.ok tree) →
      tokenize keywords limit text = .ok (.ok tokens) → e.node ∈ tree.parts →
      Expr.Calls tokens e.node.leftmost k → About keywords limit text (.eval e)
          k.text.toList

/-- The error points at the first character of what it is about, and this is not
blank. -/
def FormulaError.PointsAt (keywords : List String) (limit : Option Int)
    (text : String) (e : FormulaError) : Prop :=
  ∃ c rest, e.About keywords limit text (c :: rest) ∧
    StandsAt text.toList e.start (c :: rest) ∧ isBlank c = false

/-- Where an error may stand. -/
inductive FormulaError.Placed (keywords : List String) (limit : Option Int)
    (text : String) (e : FormulaError) : Prop where
  | ended : e.AtEnd → e.start = text.length → Placed keywords limit text e
  | tooLong {n : Int} : e.TooLong → limit = some n → e.start = n →
      n < text.length → Placed keywords limit text e
  | inside : e.PointsAt keywords limit text → Placed keywords limit text e

-- ================================================================= reading

/-- A token of a text is one of those that lie in it, or its end. -/
private theorem Tiles.mem_or_end {w : List Token} {t : Token}
    {ps : List (List Char)} (h : Tiles known cs ps w)
    (ht : t ∈ w ++ [⟨.eof, "", n⟩]) :
    (t.kind ≠ .eof ∧ t ∈ w) ∨ t = ⟨.eof, "", n⟩ := by
  rcases List.mem_append.mp ht with hw | hend
  · exact Or.inl ⟨(h.lexeme t hw).kind_ne_eof, hw⟩
  · exact Or.inr (List.mem_singleton.mp hend)

namespace FormulaError

variable {e : FormulaError} {tree : Expr} {source : Source}
  {functions : Registry} {t : Trace} {err : EvalError}

private theorem About.pointsAt (h : e.About keywords limit text p)
    (hstands : StandsAt text.toList e.start p)
    (hhead : ∃ c rest, p = c :: rest ∧ isBlank c = false) :
    e.PointsAt keywords limit text := by
  obtain ⟨c, rest, rfl, hc⟩ := hhead
  exact ⟨c, rest, h, hstands, hc⟩

/-- What stands before the end is not at the end. -/
private theorem About.not_atEnd (h : e.About keywords limit text p) :
    ¬ e.AtEnd := by
  cases h with
  | token _ _ hkind => exact hkind
  | piece _ => exact id
  | leaf _ _ _ => exact id
  | function _ _ _ _ => exact id

private theorem TooLong.not_atEnd (h : e.TooLong) : ¬ e.AtEnd := by
  cases e with
  | lex _ => exact id
  | parse _ => exact h.elim
  | eval _ => exact id

theorem placed_of_ofText
    (h : Expr.ofText keywords limit text = .ok (.error e)) :
    e.Placed keywords limit text := by
  rcases Expr.ofText_cases keywords limit text
    with ⟨f, -, heq⟩ | ⟨l, hcut, heq⟩ |
    ⟨tokens, hcut, ⟨perr, hread, heq⟩ | ⟨tree, -, heq⟩⟩
  · cases heq.symm.trans h
  · cases heq.symm.trans h
    rcases tokenize_eq_error hcut with ⟨hkind, n, hlimit, hn, hindex⟩ | hblames
    · exact .tooLong hkind hlimit hindex hn
    · exact .inside ((About.piece hblames).pointsAt hblames.standsAt
        (hblames.kind.head hblames.notAllowed))
  · cases heq.symm.trans h
    obtain ⟨w, rfl, htiles⟩ := tiles_of_tokenize hcut
    have hmem := Expr.received_mem hread
    rcases htiles.mem_or_end hmem with ⟨hkind, hw⟩ | hend
    · exact .inside ((About.token hcut hmem hkind).pointsAt (htiles.stands _ hw)
        (htiles.lexeme _ hw).head)
    · exact .ended (congrArg Token.kind hend) (congrArg Token.start hend)
  · cases heq.symm.trans h

private theorem pointsAt_of_run
    (hparse : Expr.ofText keywords limit text = .ok (.ok tree))
    (hrun : (tree.run source functions t).1 = .ok (.error err)) :
    (FormulaError.eval err).PointsAt keywords limit text := by
  obtain ⟨w, hcut, htiles, hderives⟩ := Expr.derives_of_ofText hparse
  have hpart := Expr.run_error_mem_parts hrun
  obtain ⟨hstart, ⟨hhead, t, ht, hleaf⟩ | ⟨k, hcalls⟩⟩ :=
    ((hderives.anchored_append [⟨.eof, "", text.length⟩]).of_mem_parts _
      hpart).start_eq
  · obtain ⟨htext, hleafStart⟩ := Token.of_leaf? hleaf
    have hw : t ∈ w := by
      rcases htiles.mem_or_end ht with ⟨-, hw⟩ | rfl
      · exact hw
      · cases hleaf
    refine (About.leaf hparse hpart hhead).pointsAt ?_ ?_
    · rw [start, hstart, hleafStart, htext]
      exact htiles.stands t hw
    · rw [htext]
      exact (htiles.lexeme t hw).head
  · have hw : k ∈ w := by
      obtain ⟨v, hv, -⟩ := hcalls.form
      rcases htiles.mem_or_end (hv.subset List.mem_cons_self) with ⟨-, hw⟩ | rfl
      · exact hw
      · cases hcalls.function
    refine (About.function hparse hcut hpart hcalls).pointsAt ?_
      (htiles.lexeme k hw).head
    rw [start, hstart, hcalls.start]
    exact htiles.stands k hw

end FormulaError

-- ================================================================= result

namespace Grid

variable {g : Grid} {i : Int} {s : Settings} {content formula : String}
  {e : FormulaError}

theorem placed_of_evaluateFormula
    (h : g.evaluateFormula i formula s = .ok (.error e)) :
    e.Placed s.registry.names s.maxLength formula := by
  rcases evaluateFormula_cases g i formula s
    with ⟨f, -, heq⟩ | ⟨err, hparse, heq⟩ |
    ⟨tree, t, hparse, ⟨f, -, heq⟩ | ⟨err, hrun, heq⟩ | ⟨x, -, heq⟩⟩
  · cases heq.symm.trans h
  · cases heq.symm.trans h
    exact FormulaError.placed_of_ofText hparse
  · cases heq.symm.trans h
  · cases heq.symm.trans h
    exact .inside (FormulaError.pointsAt_of_run hparse (congrArg Prod.fst hrun))
  · cases heq.symm.trans h

/-- An error of a content points into the formula, or at its end if the formula
stops too early. Unless the formula is too long, there stands the first
character of what the error is about, and this character is not blank. -/
theorem evaluate_error_start (hlimit : ∀ n, s.maxLength = some n → 0 ≤ n)
    (h : g.evaluate i content s = .ok (.error e)) :
    ∃ body, s.formula? content = some body ∧ 0 ≤ e.start ∧
      e.start ≤ body.length ∧ (e.start = body.length ↔ e.AtEnd) ∧
      (e.AtEnd ∨ e.TooLong ∨ e.PointsAt s.registry.names s.maxLength body) := by
  obtain ⟨body, hbody, hformula⟩ := evaluateBy_eq_error h
  refine ⟨body, (Settings.body?_eq_some_iff.mp hbody).1, ?_⟩
  cases placed_of_evaluateFormula hformula with
  | ended hend hstart =>
      exact ⟨by omega, by omega, iff_of_true hstart hend, Or.inl hend⟩
  | @tooLong n hlong hn hstart hlt =>
      have hnonneg := hlimit n hn
      exact ⟨by omega, by omega, iff_of_false (by omega) hlong.not_atEnd,
        Or.inr (Or.inl hlong)⟩
  | inside hpoints =>
      have ⟨c, rest, habout, hstands, _⟩ := hpoints
      have hbounds := hstands.bounds
      rw [String.length_toList] at hbounds
      exact ⟨by omega, by omega, iff_of_false (by omega) habout.not_atEnd,
        Or.inr (Or.inr hpoints)⟩

/-- A sum over cells that the grid does not have, and a formula that stops too
early. -/
theorem evaluate_error_start_one_cell :
    let g : Grid := ⟨#[.blank 0], 1⟩
    let form : Expr := .aggregate "SUM" ⟨"A0", 8⟩ ⟨"b7", 11⟩ 4
    let undefined : FormulaError := .eval ⟨.undefinedCell, form, none, ""⟩
    let early : FormulaError := .parse ⟨Expr.factorKinds, ⟨.eof, "", 4⟩, 3⟩
    (g.evaluate 0 "=2*( sum(A0:b7)+1)" ⟨"=", some 17, none⟩ =
      .ok (.error undefined) ∧
        ¬ undefined.AtEnd ∧ undefined.PointsAt ["SUM"] (some 17)
          "2*( sum(A0:b7)+1)") ∧
      g.evaluate 0 "=(A0+" .standard = .ok (.error early) ∧ early.AtEnd ∧
      early.start = 4 := by
  intro g form undefined early
  have hundefined : g.evaluate 0 "=2*( sum(A0:b7)+1)" ⟨"=", some 17, none⟩ =
      .ok (.error undefined) := rfl
  have hearly : g.evaluate 0 "=(A0+" .standard = .ok (.error early) := rfl
  obtain ⟨body, hbody, -, -, -, hplace⟩ :=
    evaluate_error_start (by rintro n ⟨⟩; decide) hundefined
  obtain ⟨body', hbody', -, -, hend, -⟩ :=
    evaluate_error_start (by rintro n ⟨⟩) hearly
  cases hbody
  cases hbody'
  exact ⟨⟨hundefined, id, (hplace.resolve_left id).resolve_left id⟩, hearly,
    hend.mp rfl, rfl⟩

end Grid

end Worksheet
