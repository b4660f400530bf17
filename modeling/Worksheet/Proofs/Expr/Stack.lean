/-
What a limited stack does to a formula.

A formula that is read or evaluated with a limited stack comes to what it
comes to without a limit, or to nothing for want of stack (`CutShort`). Of
the two numbers that decide which, one is read off the tokens and the other
is the height of the tree, and neither depends on the values that are met
(`Expr.Fits`). A formula that fits is never cut short. One that does not fit
can still be answered, with an error that is met before the stack ends, but
it has no value: a value takes the whole tree (`height_le_of_evaluateWithin`).

A formula of some length fits into a stack three times as large, since
every parenthesis and every part of the tree takes a character
(`Expr.fits_of_length`). No size is enough for formulas of any length: a sum
of ones is as high as it is long (`ones`).
-/
import Worksheet.Expr.Stack
import Worksheet.Proofs.Expr.Eval
import Worksheet.Proofs.Expr.Offsets

namespace Worksheet

-- ============================================================== cut short

/-- The first computation comes to what the second one does, or ends for
want of stack. -/
def CutShort {α : Type} (x y : Except Fault α) : Prop :=
  x = .error .tooDeep ∨ x = y

namespace CutShort

variable {α β : Type} {x y : Except Fault α} {f g : α → Except Fault β} {a : α}

theorem refl (x : Except Fault α) : CutShort x x := Or.inr rfl

/-- What is computed from the one and from the other is related again. -/
theorem bind (h : CutShort x y) (hfg : ∀ a, CutShort (f a) (g a)) :
    CutShort (x >>= f) (y >>= g) := by
  rcases h with rfl | rfl
  · exact Or.inl rfl
  · cases x with
    | error e => exact refl _
    | ok a => exact hfg a

/-- A result was not cut short. -/
theorem eq_ok (h : CutShort x y) (hx : x = .ok a) : y = .ok a := by
  rcases h with h | h
  · cases h.symm.trans hx
  · exact h ▸ hx

/-- What does have a result is found, unless it is cut short. -/
theorem of_ok (h : CutShort x y) (hy : y = .ok a) :
    x = .error .tooDeep ∨ x = .ok a :=
  h.imp_right fun heq => heq.trans hy

end CutShort

namespace Expr

variable {source : Source} {functions : Registry} {tree e : Expr}
  {stack room : Nat} {t t' : Trace} {v : Float} {value : Evaluation}
  {keywords : List String} {limit : Option Int} {text : String}
  {tokens w : List Token} {s next : State}

-- ============================================================= evaluation

/-- How many parts of a tree are inside each other. -/
def height : Expr → Nat
  | binary _ left right _ => max left.height right.height + 1
  | _ => 1

private theorem height_pos : 0 < e.height := by
  cases e <;> simp [height]

/-- An operation takes a call of its own, and its parts have the rest. -/
theorem runWithin_binary {op : Operator} {left right : Expr} {start : Int} :
    (binary op left right start).runWithin source functions (room + 1) =
      op.inTurn right (left.runWithin source functions room)
        (right.runWithin source functions room) := by
  funext t
  unfold runWithin Operator.inTurn
  rfl

/-- A tree that is no higher than the stack is evaluated as without one. -/
theorem runWithin_of_height (h : e.height ≤ room) :
    e.runWithin source functions room t = e.run source functions t := by
  obtain ⟨room, rfl⟩ : ∃ n, room = n + 1 :=
    Nat.exists_eq_add_one.mpr (Nat.lt_of_lt_of_le height_pos h)
  induction e generalizing room t with
  | binary op left right start ihl ihr =>
      have hl := height_pos (e := left)
      have hr := height_pos (e := right)
      unfold height at h
      obtain ⟨room, rfl⟩ : ∃ n, room = n + 1 := ⟨room - 1, by omega⟩
      have hleft : left.runWithin source functions (room + 1) =
          left.run source functions := funext fun t => @ihl t room (by omega)
      have hright : right.runWithin source functions (room + 1) =
          right.run source functions := funext fun t => @ihr t room (by omega)
      rw [runWithin_binary, run_binary, hleft, hright]
  | _ => rfl

/-- Any other evaluation is the same, or it is cut short. -/
theorem runWithin_cases :
    (e.runWithin source functions room t).1 = .error .tooDeep ∨
      e.runWithin source functions room t = e.run source functions t := by
  induction e generalizing room t with
  | binary op left right start ihl ihr =>
      cases room with
      | zero => exact Or.inl rfl
      | succ room =>
          unfold runWithin run
          rcases @ihl room t with hcut | heq
          · rcases hran : left.runWithin source functions room t with ⟨x, t₁⟩
            rw [hran] at hcut
            cases hcut
            exact Or.inl rfl
          · rw [heq]
            rcases left.run source functions t with ⟨f | (err | x), t₁⟩
            · exact Or.inr rfl
            · exact Or.inr rfl
            · dsimp only
              rcases @ihr room t₁ with hcut | heq
              · rcases hran : right.runWithin source functions room t₁
                  with ⟨y, t₂⟩
                rw [hran] at hcut
                cases hcut
                exact Or.inl rfl
              · rw [heq]
                exact Or.inr rfl
  | _ =>
      cases room with
      | zero => exact Or.inl rfl
      | succ room => exact Or.inr rfl

/-- A value takes the whole tree, which is therefore no higher than the
stack. -/
theorem height_le_of_runWithin
    (h : e.runWithin source functions room t = (.ok (.ok v), t')) :
    e.height ≤ room := by
  induction e generalizing room t v t' with
  | binary op left right start ihl ihr =>
      cases room with
      | zero => cases h
      | succ room =>
          rw [runWithin_binary] at h
          obtain ⟨x, y, t₁, hl, hr, -⟩ := Operator.inTurn_ok h
          have hleft := ihl hl
          have hright := ihr hr
          unfold height
          omega
  | _ =>
      cases room with
      | zero => cases h
      | succ room =>
          unfold height
          omega

theorem evaluateWithin_of_height (h : e.height ≤ stack) :
    e.evaluateWithin stack source functions =
      (e.evaluate source functions).1 := by
  unfold evaluateWithin evaluate
  rw [runWithin_of_height h]

theorem cutShort_evaluateWithin :
    CutShort (e.evaluateWithin stack source functions)
      (e.evaluate source functions).1 := by
  unfold evaluateWithin evaluate
  rcases @runWithin_cases source functions e stack .empty with hcut | heq
  · rcases hran : e.runWithin source functions stack .empty with ⟨x, t⟩
    rw [hran] at hcut
    cases hcut
    exact Or.inl rfl
  · rw [heq]
    exact .refl _

theorem height_le_of_evaluateWithin
    (h : e.evaluateWithin stack source functions = .ok (.ok value)) :
    e.height ≤ stack := by
  unfold evaluateWithin at h
  rcases hran : e.runWithin source functions stack .empty
    with ⟨f | (err | x), t⟩
  · rw [hran] at h
    cases h
  · rw [hran] at h
    cases h
  · exact height_le_of_runWithin hran

-- ================================================================= fitting

/-- The stack has room for a formula: for the reading of its tokens, if it
is cut into tokens, and for the evaluation of its tree, if it has one. -/
structure Fits (stack : Nat) (keywords : List String) (limit : Option Int)
    (text : String) : Prop where
  reading : ∀ tokens, tokenize keywords limit text = .ok (.ok tokens) →
    readingCalls tokens ≤ stack
  evaluation : ∀ tree, ofText keywords limit text = .ok (.ok tree) →
    tree.height ≤ stack

/-- A text whose reading fits is read as without a limit. -/
theorem ofTextWithin_of_reading
    (h : ∀ tokens, tokenize keywords limit text = .ok (.ok tokens) →
      readingCalls tokens ≤ stack) :
    ofTextWithin stack keywords limit text = ofText keywords limit text := by
  unfold ofTextWithin ofText
  rcases htokens : tokenize keywords limit text with f | (err | tokens)
  · rfl
  · rfl
  · show (ofTokensWithin stack tokens >>= _) = _
    unfold ofTokensWithin
    rw [if_pos (h tokens htokens)]
    rfl

/-- Any other is not read. -/
private theorem ofTextWithin_of_not_reading
    (htokens : tokenize keywords limit text = .ok (.ok tokens))
    (h : ¬ readingCalls tokens ≤ stack) :
    ofTextWithin stack keywords limit text = .error .tooDeep := by
  unfold ofTextWithin
  rw [htokens]
  show (ofTokensWithin stack tokens >>= _) = _
  unfold ofTokensWithin
  rw [if_neg h]
  rfl

/-- Either way it is read as without a limit, or cut short. -/
theorem ofTextWithin_cases (stack : Nat) (keywords : List String)
    (limit : Option Int) (text : String) :
    ofTextWithin stack keywords limit text = .error .tooDeep ∨
      (∀ tokens, tokenize keywords limit text = .ok (.ok tokens) →
        readingCalls tokens ≤ stack) ∧
      ofTextWithin stack keywords limit text = ofText keywords limit text := by
  by_cases h : ∀ tokens, tokenize keywords limit text = .ok (.ok tokens) →
      readingCalls tokens ≤ stack
  · exact Or.inr ⟨h, ofTextWithin_of_reading h⟩
  · push Not at h
    obtain ⟨tokens, htokens, hlt⟩ := h
    exact Or.inl (ofTextWithin_of_not_reading htokens (Nat.not_le.mpr hlt))

-- ================================================================= lengths

/-- The reader opens at most one parenthesis with a token. -/
private theorem length_outer_step? {t : Token} (h : s.step? t = some next) :
    next.outer.length ≤ s.outer.length + 1 := by
  obtain ⟨mode, pending, outer⟩ := s
  cases mode with
  | operand =>
      cases hkind : t.kind <;>
        simp only [State.step?, hkind, reduceCtorEq, Option.some.injEq] at h <;>
        subst h <;> simp [State.take]
  | sign left =>
      cases hkind : t.kind <;>
        simp only [State.step?, hkind, reduceCtorEq] at h
      case operator =>
        -- the operation waits inside the parentheses that are open
        split at h
        · cases h
          exact Nat.le_succ _
        · split at h
          · cases h
            exact Nat.le_succ _
          · cases h
      case rightParen =>
        cases outer with
        | nil => cases h
        | cons pending outer =>
            cases h
            simp only [State.take, List.length_cons]
            omega
  | form keyword read =>
      cases read <;> cases hkind : t.kind <;>
        simp only [State.step?, hkind, reduceCtorEq, Option.some.injEq] at h <;>
        subst h <;> simp [State.take]

/-- So no more are open at once than there are tokens in front of the end. -/
private theorem deepest_append_eof {eof : Token} (heof : eof.kind = .eof) :
    s.deepest (w ++ [eof]) ≤ s.outer.length + w.length := by
  induction w generalizing s with
  | nil =>
      show (if eof.kind = .eof then _ else _) ≤ _
      rw [if_pos heof]
      exact Nat.le_refl _
  | cons t w ih =>
      rw [List.cons_append, State.deepest, List.length_cons]
      split
      · omega
      · cases hstep : s.step? t with
        | none =>
            dsimp only
            omega
        | some next =>
            have hnext := length_outer_step? hstep
            have hrest := @ih next
            dsimp only
            omega

/-- A tree that was read has no more parts inside each other than leaves. -/
private theorem height_le_leaves (h : tree.Writable keywords) :
    tree.height ≤ tree.leaves.length := by
  induction tree with
  | binary op left right start ihl ihr =>
      have hl := ihl h.2.1
      have hr := ihr h.2.2
      have hlpos := height_pos (e := left)
      have hrpos := height_pos (e := right)
      rw [height, leaves, List.length_append]
      omega
  | hole text => cases h
  | _ => simp [height, leaves]

/-- Tokens take room in the text, but for the end. -/
private theorem length_tokens_le
    (h : tokenize keywords limit text = .ok (.ok tokens)) :
    tokens.length ≤ text.length + 1 := by
  have hlength : ∀ {known n ps w}, Tiled known n ps w →
      w.length ≤ ps.flatten.length := by
    intro known n ps w hw
    induction hw with
    | nil => exact Nat.le_refl _
    | blank _ _ ih =>
        rw [List.flatten_cons, List.length_append]
        omega
    | token hlexeme _ ih =>
        obtain ⟨c, rest, rfl, -⟩ := hlexeme.head
        rw [List.flatten_cons, List.length_append, List.length_cons,
          List.length_cons]
        omega
  have htext := tokensOfText_of_tokenize h
  rcases tokensOfText_cases keywords text with ⟨w, hw, hread⟩ | ⟨e, herror, -⟩
  · cases htext.symm.trans hread
    have := hlength hw
    rw [flatten_pieces, String.length_toList] at this
    rw [List.length_append, List.length_singleton]
    omega
  · cases htext.symm.trans herror

/-- A formula fits into a stack that is three times as large as its text. -/
theorem fits_of_length (h : 3 * (text.length + 1) ≤ stack) :
    Fits stack keywords limit text := by
  constructor
  · intro tokens htokens
    have hlength := length_tokens_le htokens
    obtain ⟨w, rfl, -⟩ := tiles_of_tokenize htokens
    have hdeepest : State.start.deepest (w ++ [⟨.eof, "", text.length⟩]) ≤
        State.start.outer.length + w.length := deepest_append_eof rfl
    have hstart : State.start.outer.length = 0 := rfl
    rw [List.length_append, List.length_singleton] at hlength
    unfold readingCalls
    omega
  · intro tree htree
    obtain ⟨w, htokens, -, hderives⟩ := derives_of_ofText htree
    have hlength := length_tokens_le htokens
    have hheight := height_le_leaves (writable_of_ofText htree)
    have hleaves : tree.leaves.length ≤ w.length := by
      rw [hderives.leaves_eq]
      exact List.length_filterMap_le _ _
    rw [List.length_append, List.length_singleton] at hlength
    omega

-- ============================================================ high trees

/-- The number one. -/
def one : Expr :=
  number (numeralValue "1") "1" 0

/-- A sum with so many signs, all of whose terms are one. -/
def ones : Nat → Expr
  | 0 => one
  | n + 1 => binary .add (ones n) one 0

theorem height_ones (n : Nat) : (ones n).height = n + 1 := by
  induction n with
  | zero => rfl
  | succ n ih =>
      have hone : one.height = 1 := rfl
      rw [ones, height, ih, hone]
      omega

theorem writable_ones (keywords : List String) (n : Nat) :
    (ones n).Writable keywords := by
  induction n with
  | zero => exact ⟨rfl, rfl⟩
  | succ n ih => exact ⟨nofun, ih, rfl, rfl⟩

/-- The text of a sum of ones is not blank. -/
theorem one_mem_render (n : Nat) : '1' ∈ (ones n).render.toList := by
  induction n with
  | zero => exact List.mem_singleton_self _
  | succ n ih => simp [ones, render, ih]

/-- Where the parts of a tree start is nothing to how high it is. -/
private theorem height_unplaced : tree.unplaced.height = tree.height := by
  induction tree with
  | binary op left right start ihl ihr =>
      rw [unplaced, height, height, ihl, ihr]
  | _ => rfl

/-- The tree adds numbers and does nothing else. -/
def Adds : Expr → Prop
  | number .. => True
  | binary op left right _ => op = .add ∧ left.Adds ∧ right.Adds
  | _ => False

theorem adds_ones (n : Nat) : (ones n).Adds := by
  induction n with
  | zero => trivial
  | succ n ih => exact ⟨rfl, ih, trivial⟩

private theorem adds_unplaced : tree.unplaced.Adds ↔ tree.Adds := by
  induction tree with
  | binary op left right start ihl ihr =>
      exact and_congr_right fun _ => and_congr ihl ihr
  | _ => exact Iff.rfl

/-- A sum of numbers has a value, for which nothing is read. -/
theorem Adds.run (h : tree.Adds) (source : Source) (functions : Registry)
    (t : Trace) : ∃ v, tree.run source functions t = (.ok (.ok v), t) := by
  induction tree with
  | number value text start => exact ⟨value, rfl⟩
  | binary op left right start ihl ihr =>
      obtain ⟨rfl, hl, hr⟩ := h
      obtain ⟨x, hx⟩ := ihl hl
      obtain ⟨y, hy⟩ := ihr hr
      refine ⟨x + y, ?_⟩
      unfold Expr.run
      rw [hx]
      dsimp only
      rw [hy]
      rfl
  | ref cell => cases h
  | aggregate name first last start => cases h
  | hole text => cases h

/-- A sum of ones is read as a sum of numbers that is as high as it is long. -/
theorem exists_ofText_ones (keywords : List String) (n : Nat) :
    ∃ tree, ofText keywords none (ones n).render = .ok (.ok tree) ∧
      tree.Adds ∧ tree.height = n + 1 := by
  obtain ⟨tree, hread, heq⟩ := (writable_ones keywords n).ofText_render
  refine ⟨tree, hread, ?_, ?_⟩
  · rw [← adds_unplaced, heq, adds_unplaced]
    exact adds_ones n
  · rw [← height_unplaced, heq, height_unplaced]
    exact height_ones n

end Expr

end Worksheet
