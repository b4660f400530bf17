/-
What can still become a formula.

The reader of expressions takes a token as soon as some formula goes on with
it, and no later one is looked at. So the token at which it stops is the first
mistake: what stands in front of it can be completed to a formula, and with it
nothing can.

# Why every state has a completion

A reader that is under way never waits for anything but a factor, the rest of
a function form, or the closing of what is open. Any number will do for a
factor, a form has one shape, and after a factor the open parentheses can be
closed one after another until the formula may end (`State.Completes.all`). A
kind that is named as expected is one with which the reader goes on, or the end
where the formula may end already (`State.fits_of_expected`).

# Why nothing follows where the reader stops

The words of the grammar are read without a stop (`Derives.takes`). A word that
begins with the tokens read so far and the one at which the reader stops would
be read beyond it.
-/
import Worksheet.Proofs.Expr.Grammar

namespace Worksheet

-- ================================================================= tokens

/-- Some token of a kind, as it might stand in a formula. -/
def Token.sample (kind : TokenKind) : Token :=
  match kind with
  | .number => ⟨.number, "0", 0⟩
  | .cell => ⟨.cell, "A0", 0⟩
  | .operator => ⟨.operator, "+", 0⟩
  | .function => ⟨.function, "SUM", 0⟩
  | .leftParen => ⟨.leftParen, "(", 0⟩
  | .rightParen => ⟨.rightParen, ")", 0⟩
  | .colon => ⟨.colon, ":", 0⟩
  | .eof => ⟨.eof, "", 0⟩

private theorem Token.kind_sample (kind : TokenKind) :
    (sample kind).kind = kind := by
  cases kind <;> rfl

private theorem Token.regular_sample (kind : TokenKind) :
    (sample kind).Regular := by
  cases kind <;> exact ⟨by decide, by decide⟩

namespace Expr

/-- The tokens are a word of the grammar. -/
def IsFormula (w : List Token) : Prop := ∃ e, Derives .sum w e

variable {s next : State} {v w tokens : List Token} {t eof : Token}
  {left : Expr} {p : Pending} {outer : List Pending} {index : Nat}
  {e : ParseError} {kind : TokenKind}

namespace State

-- ============================================================ completions

/-- Some more tokens lead to where the formula may end. -/
def Completes (s : State) : Prop :=
  ∃ v last tree, (∀ t ∈ v, t.Regular) ∧ s.steps? v = some last ∧
  last.result? = some tree

namespace Completes

private theorem of_step (kind : TokenKind)
    (hstep : s.step? (.sample kind) = some next)
    (h : next.Completes) : s.Completes := by
  obtain ⟨v, last, tree, hreg, hsteps, hresult⟩ := h
  refine ⟨.sample kind :: v, last, tree, ?_, ?_, hresult⟩
  · exact List.forall_mem_cons.mpr ⟨Token.regular_sample kind, hreg⟩
  · rw [steps?_cons, hstep]
    exact hsteps

/-- After a product, every open parenthesis can be closed. -/
private theorem sign : Completes ⟨.sign left, p, outer⟩ := by
  induction outer generalizing left p with
  | nil => exact ⟨[], _, _, nofun, rfl, rfl⟩
  | cons around outer ih => exact of_step .rightParen rfl ih

private theorem take (factor : Expr) : (s.take factor).Completes := sign

/-- A function form can be gone through to its end from every place in it. -/
private theorem form {k : Token} {read : Form} :
    Completes ⟨.form k read, p, outer⟩ := by
  have hlast : ∀ a b, Completes ⟨.form k (.last a b), p, outer⟩ := fun a b =>
    of_step .rightParen rfl (take _)
  have hcolon : ∀ a, Completes ⟨.form k (.colon a), p, outer⟩ := fun a =>
    of_step .cell rfl (hlast a _)
  have hfirst : ∀ a, Completes ⟨.form k (.first a), p, outer⟩ := fun a =>
    of_step .colon rfl (hcolon a)
  have hopen : Completes ⟨.form k .openParen, p, outer⟩ :=
    of_step .cell rfl (hfirst _)
  cases read with
  | name => exact of_step .leftParen rfl hopen
  | openParen => exact hopen
  | first a => exact hfirst a
  | colon a => exact hcolon a
  | last a b => exact hlast a b

/-- Whatever has been read, a formula can still come of it. -/
theorem all : ∀ s : State, s.Completes
  | ⟨.operand, _, _⟩ => of_step .number rfl (take _)
  | ⟨.sign _, _, _⟩ => sign
  | ⟨.form _ _, _, _⟩ => form

end Completes

/-- A kind that is named as expected fits, or the formula may end. -/
theorem fits_of_expected (hkind : kind ∈ s.expected) :
    (kind = .eof ∧ ∃ tree, s.result? = some tree) ∨
      (kind ≠ .eof ∧ ∃ next, s.step? (.sample kind) = some next) := by
  obtain ⟨mode, p, outer⟩ := s
  cases mode with
  | operand =>
      simp only [expected, factorKinds, List.mem_cons, List.not_mem_nil,
        or_false] at hkind
      rcases hkind with rfl | rfl | rfl | rfl <;> exact Or.inr ⟨nofun, _, rfl⟩
  | sign left =>
      cases outer with
      | nil =>
          rw [List.mem_singleton.mp hkind]
          exact Or.inl ⟨rfl, _, rfl⟩
      | cons around outer =>
          rw [List.mem_singleton.mp hkind]
          exact Or.inr ⟨nofun, _, rfl⟩
  | form k read =>
      cases read <;> rw [List.mem_singleton.mp hkind]
        <;> exact Or.inr ⟨nofun, _, rfl⟩

-- ================================================================= errors

/-- The place at which the reader stops: the tokens before it were taken, and
the one there is not, or is an end where the formula may not end. -/
theorem read_eq_error (heof : eof.kind = .eof)
    (h : s.read eof index tokens = .error e) :
    ∃ w rest last, tokens = w ++ rest ∧ e.index = index + w.length ∧
      s.steps? w = some last ∧ e.expected = last.expected ∧
      e.received = rest.head?.getD eof ∧
      ((e.received.kind = .eof ∧ last.result? = none) ∨
        (e.received.kind ≠ .eof ∧ last.step? e.received = none)) := by
  -- an end that is refused, at the end of the tokens or at one of them
  have hfinish : ∀ {s : State} {t : Token} {index : Nat}, s.finish t index =
    .error e → e = ⟨s.expected, t, index⟩ ∧ s.result? = none := by
    intro s t index h
    unfold finish at h
    cases hresult : s.result? with
    | some tree =>
        rw [hresult] at h
        cases h
    | none =>
        rw [hresult] at h
        cases h
        exact ⟨rfl, rfl⟩
  induction tokens generalizing s index with
  | nil =>
      obtain ⟨rfl, hnone⟩ := hfinish h
      exact ⟨[], [], s, rfl, rfl, rfl, rfl, rfl, Or.inl ⟨heof, hnone⟩⟩
  | cons t rest ih =>
      rw [read] at h
      by_cases ht : t.kind = .eof
      · rw [if_pos ht] at h
        obtain ⟨rfl, hnone⟩ := hfinish h
        exact ⟨[], t :: rest, s, rfl, rfl, rfl, rfl, rfl, Or.inl ⟨ht, hnone⟩⟩
      · rw [if_neg ht] at h
        cases hstep : s.step? t with
        | none =>
            rw [hstep] at h
            cases h
            exact ⟨[], t :: rest, s, rfl, rfl, rfl, rfl, rfl,
              Or.inr ⟨ht, hstep⟩⟩
        | some next =>
            rw [hstep] at h
            obtain ⟨w, later, last, rfl, hindex, hsteps, hrest⟩ := ih h
            refine ⟨t :: w, later, last, rfl, ?_, ?_, hrest⟩
            · rw [hindex, List.length_cons]
              omega
            · rw [steps?_cons, hstep]
              exact hsteps

end State

-- =============================================================== formulas

/-- What is read up to where the formula may end is one. -/
private theorem isFormula_of_steps {last : State} {tree : Expr}
    (hreg : ∀ t ∈ w, t.Regular) (hsteps : State.start.steps? w = some last)
    (hresult : last.result? = some tree) :
    IsFormula w :=
  ⟨tree, (Holds.steps (.operand .start) hreg hsteps).result hresult⟩

/-- A formula is read to its end. -/
private theorem IsFormula.steps (h : IsFormula w) :
    ∃ last tree, State.start.steps? w = some last ∧
      last.result? = some tree := by
  obtain ⟨tree, hderives⟩ := h
  obtain ⟨sum, left, hsteps, rfl⟩ := hderives.takes []
  exact ⟨_, _, hsteps, rfl⟩

section

variable {last : State} (hreg : ∀ t ∈ w, t.Regular)
  (hsteps : State.start.steps? w = some last)

include hreg hsteps

/-- From the state after some tokens, any way to complete it makes a formula of
them. -/
theorem isFormula_append {tree : Expr} {final : State}
    (hmore : ∀ t ∈ v, t.Regular) (hlast : last.steps? v = some final)
    (hresult : final.result? = some tree) :
    IsFormula (w ++ v) := by
  refine isFormula_of_steps (List.forall_mem_append.mpr ⟨hreg, hmore⟩)
    ?_ hresult
  rw [State.steps?_append_of hsteps, hlast]

theorem exists_completion : ∃ v, (∀ t ∈ v, t.Regular) ∧
    IsFormula (w ++ v) := by
  obtain ⟨v, final, tree, hmore, hlast, hresult⟩ := State.Completes.all last
  exact ⟨v, hmore, isFormula_append hreg hsteps hmore hlast hresult⟩

/-- A token of an expected kind can come next. -/
private theorem exists_completion_of_expected (hkind : kind ∈ last.expected) :
    if kind = .eof then IsFormula w
    else ∃ t v, t.kind = kind ∧ (∀ u ∈ t :: v, u.Regular) ∧
    IsFormula (w ++ t :: v) := by
  rcases State.fits_of_expected hkind with ⟨rfl, tree, hresult⟩
    | ⟨hne, next, hstep⟩
  · rw [if_pos rfl]
    exact isFormula_of_steps hreg hsteps hresult
  · rw [if_neg hne]
    have hmid : State.start.steps? (w ++ [.sample kind]) = some next := by
      rw [State.steps?_append_of hsteps, State.steps?_cons, hstep]
      rfl
    have hmidreg : ∀ t ∈ w ++ [.sample kind], t.Regular :=
      List.forall_mem_append.mpr ⟨hreg, by
        simpa using Token.regular_sample kind⟩
    obtain ⟨v, hmore, hformula⟩ := exists_completion hmidreg hmid
    rw [List.append_assoc, List.singleton_append] at hformula
    exact ⟨.sample kind, v, Token.kind_sample kind,
      List.forall_mem_cons.mpr ⟨Token.regular_sample kind, hmore⟩, hformula⟩

omit hreg

private theorem not_isFormula_of_result (hresult : last.result? = none) :
    ¬ IsFormula w := by
  intro h
  obtain ⟨final, tree, hfinal, htree⟩ := h.steps
  cases hsteps.symm.trans hfinal
  cases hresult.symm.trans htree

theorem not_isFormula_of_step (hstep : last.step? t = none) (v : List Token) :
    ¬ IsFormula (w ++ t :: v) := by
  intro h
  obtain ⟨final, tree, hfinal, -⟩ := h.steps
  rw [State.steps?_append_of hsteps, State.steps?_cons, hstep] at hfinal
  cases hfinal

end

-- ================================================================= result

/-- An error stands at the first mistake. The tokens before it can be completed
to a formula. Together with the token that is there they cannot, whatever comes
after them; if this is an end, they are no formula themselves. After them, every
kind that is named as expected can stand in some formula; the end is named only
if they are a formula. The token of the error is the one at its position, or the
end token that stands in for a missing one, and then the position is behind all
tokens. -/
theorem ofTokens_error_first_mistake (hreg : ∀ t ∈ tokens, t.Regular)
    (h : ofTokens tokens = .error e) :
    (∃ v, (∀ t ∈ v, t.Regular) ∧ IsFormula (tokens.take e.index ++ v)) ∧
    (if e.received.kind = .eof then ¬ IsFormula (tokens.take e.index)
      else ∀ v, ¬ IsFormula (tokens.take e.index ++ e.received :: v)) ∧
    (∀ kind ∈ e.expected, if kind = .eof then IsFormula (tokens.take e.index)
      else ∃ t v, t.kind = kind ∧ (∀ u ∈ t :: v, u.Regular) ∧
        IsFormula (tokens.take e.index ++ t :: v)) ∧
    ((e.index < tokens.length ∧ tokens[e.index]? = some e.received) ∨
      (e.index = tokens.length ∧ e.received = endToken tokens)) := by
  have heof : (endToken tokens).kind = .eof := rfl
  obtain ⟨w, rest, last, hsplit, hindex, hsteps, hexpected, hreceived, hstop⟩ :=
    State.read_eq_error heof h
  rw [Nat.zero_add] at hindex
  have htake : tokens.take e.index = w := by
    rw [hsplit, hindex]
    exact List.take_left
  have hwreg : ∀ t ∈ w, t.Regular := fun t ht =>
    hreg t (hsplit ▸ List.mem_append_left rest ht)
  rw [htake, hexpected]
  refine ⟨exists_completion hwreg hsteps, ?_, fun kind hkind =>
    exists_completion_of_expected hwreg hsteps hkind, ?_⟩
  · rcases hstop with ⟨hkind, hresult⟩ | ⟨hkind, hstep⟩
    · rw [if_pos hkind]
      exact not_isFormula_of_result hsteps hresult
    · rw [if_neg hkind]
      exact not_isFormula_of_step hsteps hstep
  · rw [hreceived, hindex]
    cases rest with
    | nil =>
        rw [List.append_nil] at hsplit
        exact Or.inr ⟨congrArg List.length hsplit.symm, rfl⟩
    | cons t rest =>
        refine Or.inl ⟨?_, ?_⟩
        · rw [hsplit, List.length_append, List.length_cons]
          omega
        · rw [hsplit, List.getElem?_append_right (Nat.le_refl _), Nat.sub_self]
          rfl

/-- The parentheses are still open where a second cell follows the first one. -/
theorem ofTokens_error_first_mistake_two_cells :
    let w : List Token := [⟨.leftParen, "(", 0⟩, ⟨.number, "8", 1⟩,
      ⟨.operator, "-", 2⟩, ⟨.cell, "A0", 3⟩]
    let received : Token := ⟨.cell, "B0", 6⟩
    let tokens := w ++ [received, ⟨.rightParen, ")", 8⟩, ⟨.eof, "", 9⟩]
    (∀ t ∈ tokens, t.Regular) ∧
      ofTokens tokens = .error ⟨[.rightParen], received, 4⟩ ∧
    (∃ v, (∀ t ∈ v, t.Regular) ∧ IsFormula (w ++ v)) ∧
    (∀ v, ¬ IsFormula (w ++ received :: v)) ∧
    (∃ t v, t.kind = .rightParen ∧ (∀ u ∈ t :: v, u.Regular) ∧
      IsFormula (w ++ t :: v)) := by
  intro w received tokens
  have htokenize : tokenize [] none "(8-A0 B0)" = .ok (.ok tokens) := rfl
  have hreg : ∀ t ∈ tokens, t.Regular := regular_of_tokenize htokenize
  have herror : ofTokens tokens = .error ⟨[.rightParen], received, 4⟩ := rfl
  obtain ⟨hcompletes, hstops, hexpected, -⟩ :=
    ofTokens_error_first_mistake hreg herror
  exact ⟨hreg, herror, hcompletes, hstops, hexpected .rightParen
    List.mem_cons_self⟩

end Expr

end Worksheet
