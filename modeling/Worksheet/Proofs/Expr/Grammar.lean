/-
The reader of expressions accepts its grammar.

The grammar is a relation between a level, a list of tokens and a tree
(`Derives`). A chain at either level is one operand and any number of
further ones with a sign before each; its tree is the fold of the links
from the left, so the grouping is part of the grammar. Parentheses add
tokens and no node.

# From a derivation to a run

A derivation is followed token by token. What a level does to the reader
is the same wherever the word of that level stands (`Level.Takes`): a
factor is taken as one, a product leaves what waits of the sum as it was,
and a sum closes everything that was opened after it began. One induction
over derivations shows all three (`Derives.takes`).

# From a run to a derivation

The tokens read so far are the only memory that the argument has, so it
says of them how they split. Up to an operand they are opened parentheses,
and after each of these at most a sum with its sign and then a product with
its sign (`Opens`); after the operand a product has been derived (`Holds`).
Each token that fits keeps this, and at the end nothing is open: what was
read is one sum (`Holds.result`).

Operator tokens with texts that are no sign do fit, but no formula text
gives one; such tokens are left aside (`Token.Regular`).
-/
import Worksheet.Expr.OfTokens
import Worksheet.Proofs.Token.Spelling

namespace Worksheet

open Text (upper)

-- ================================================================ grammar

/-- The token is an operator with one of the given signs. -/
def Token.IsSign (signs : List String) (t : Token) : Prop :=
  t.kind = .operator ∧ t.text ∈ signs

/-- The sign of an operator token goes on with a product or with a sum. -/
theorem Token.Regular.isSign {t : Token} (ht : t.Regular)
    (hkind : t.kind = .operator) :
    t.IsSign ["*", "/"] ∨ t.IsSign ["+", "-"] := by
  have htext := ht.sign hkind
  simp only [List.mem_cons, List.not_mem_nil, or_false] at htext
  rcases htext with h | h | h | h
  · exact Or.inr ⟨hkind, by simp [h]⟩
  · exact Or.inr ⟨hkind, by simp [h]⟩
  · exact Or.inl ⟨hkind, by simp [h]⟩
  · exact Or.inl ⟨hkind, by simp [h]⟩

namespace Expr

/-- The three levels of the grammar, from the tightest to the loosest. -/
inductive Level where
  | factor
  | product
  | sum
deriving DecidableEq, Repr

/-- A link of a chain: a sign, and the operand after it with its tree. -/
structure Link where
  sign : Token
  word : List Token
  tree : Expr

/-- The tokens of a link. -/
def Link.tokens (l : Link) : List Token :=
  l.sign :: l.word

/-- The tree of what stands before a link, joined with its operand. -/
def Link.onto (left : Expr) (l : Link) : Expr :=
  .binary (.ofSign l.sign.text) left l.tree left.start

/-- The tokens form a word of the level, and this is the tree of the word. -/
inductive Derives : Level → List Token → Expr → Prop where
  | number {t : Token} : t.kind = .number →
      Derives .factor [t] (.number (numeralValue t.text) t.text t.start)
  | cell {t : Token} : t.kind = .cell →
      Derives .factor [t] (.ref ⟨t.text, t.start⟩)
  | aggregate {f l a c b r : Token} : f.kind = .function → l.kind = .leftParen →
      a.kind = .cell → c.kind = .colon → b.kind = .cell → r.kind = .rightParen →
      Derives .factor [f, l, a, c, b, r]
        (.aggregate (upper f.text) ⟨a.text, a.start⟩ ⟨b.text, b.start⟩ f.start)
  | parens {l r : Token} {w : List Token} {e : Expr} : l.kind = .leftParen →
      Derives .sum w e → r.kind = .rightParen →
      Derives .factor (l :: (w ++ [r])) e
  | product {w : List Token} {e : Expr} {links : List Link} :
      Derives .factor w e → (∀ l ∈ links, l.sign.IsSign ["*", "/"]) →
      (∀ l ∈ links, Derives .factor l.word l.tree) →
      Derives .product (w ++ links.flatMap Link.tokens)
        (links.foldl Link.onto e)
  | sum {w : List Token} {e : Expr} {links : List Link} : Derives .product w e →
      (∀ l ∈ links, l.sign.IsSign ["+", "-"]) →
      (∀ l ∈ links, Derives .product l.word l.tree) →
      Derives .sum (w ++ links.flatMap Link.tokens) (links.foldl Link.onto e)

section

variable {u v w : List Token} {t : Token} {e left right : Expr}

/-- A factor alone is a product. -/
theorem Derives.toProduct (h : Derives .factor w e) : Derives .product w e := by
  simpa using @Derives.product w e [] h nofun nofun

/-- A product alone is a sum. -/
theorem Derives.toSum (h : Derives .product w e) : Derives .sum w e := by
  simpa using @Derives.sum w e [] h nofun nofun

/-- A product goes on with a sign and a factor. -/
theorem Derives.times (h : Derives .product u left) (ht : t.IsSign ["*", "/"])
    (hv : Derives .factor v right) :
    Derives .product (u ++ t :: v)
      (.binary (.ofSign t.text) left right left.start) := by
  cases h with
  | @product w e links hfirst hsigns hrest =>
    have hmore := @Derives.product w e (links ++ [⟨t, v, right⟩]) hfirst
      (List.forall_mem_append.mpr ⟨hsigns, by simpa using ht⟩)
      (List.forall_mem_append.mpr ⟨hrest, by simpa using hv⟩)
    rw [List.flatMap_append, List.foldl_append, ← List.append_assoc] at hmore
    simpa [Link.tokens, Link.onto] using hmore

/-- A sum goes on with a sign and a product. -/
theorem Derives.plus (h : Derives .sum u left) (ht : t.IsSign ["+", "-"])
    (hv : Derives .product v right) :
    Derives .sum (u ++ t :: v)
      (.binary (.ofSign t.text) left right left.start) := by
  cases h with
  | @sum w e links hfirst hsigns hrest =>
    have hmore := @Derives.sum w e (links ++ [⟨t, v, right⟩]) hfirst
      (List.forall_mem_append.mpr ⟨hsigns, by simpa using ht⟩)
      (List.forall_mem_append.mpr ⟨hrest, by simpa using hv⟩)
    rw [List.flatMap_append, List.foldl_append, ← List.append_assoc] at hmore
    simpa [Link.tokens, Link.onto] using hmore

end

-- ================================================================== runs

/-- The state after some tokens, if each of them fits. -/
def State.steps? (s : State) (w : List Token) : Option State :=
  w.foldlM State.step? s

/-- The tokens of a formula: those before the first end token. -/
def word (tokens : List Token) : List Token :=
  tokens.takeWhile (·.kind != .eof)

/-- Only the end token is left out of a formula that has it at its end. -/
theorem word_append_eof {w : List Token} {eof : Token}
    (hw : ∀ t ∈ w, t.kind ≠ .eof)
    (heof : eof.kind = .eof) : word (w ++ [eof]) = w := by
  have hfront : ∀ t ∈ w, (t.kind != .eof) = true := fun t ht => by
    simpa using hw t ht
  rw [word, List.takeWhile_append_of_pos hfront,
    List.takeWhile_cons_of_neg (by simp [heof]), List.append_nil]

section

variable {s next : State} {u v w tokens : List Token} {t eof : Token}
  {e left : Expr} {sum : Option (Expr × Operator)} {p : Pending}
  {outer : List Pending} {index : Nat}

namespace State

@[simp] theorem steps?_nil : s.steps? [] = some s := rfl

theorem steps?_cons : s.steps? (t :: w) = (s.step? t).bind (·.steps? w) :=
  List.foldlM_cons

private theorem steps?_append : s.steps? (v ++ w) =
    (s.steps? v).bind (·.steps? w) :=
  List.foldlM_append

/-- A run over two parts, the first of which is known. -/
theorem steps?_append_of (h : s.steps? v = some next) :
    s.steps? (v ++ w) = next.steps? w := by
  rw [steps?_append, h]
  rfl

theorem finish_eq_ok : s.finish t index = .ok e ↔ s.result? = some e := by
  unfold finish
  cases s.result? with
  | none => simp
  | some tree => simp

/-- Reading gives a tree when every token before the end fits, and the formula
may end where they end. -/
theorem read_eq_ok : s.read eof index tokens = .ok e ↔
    ∃ last, s.steps? (word tokens) = some last ∧ last.result? = some e := by
  induction tokens generalizing s index with
  | nil => simp [read, word, finish_eq_ok]
  | cons t rest ih =>
      rw [read, word]
      by_cases ht : t.kind = .eof
      · rw [if_pos ht, List.takeWhile_cons_of_neg (by simp [ht]), finish_eq_ok]
        simp
      · rw [if_neg ht, List.takeWhile_cons_of_pos (by simp [ht]), steps?_cons]
        cases s.step? t with
        | none => simp
        | some next => exact ih

end State

-- ============================================================ completeness

/-- What a word of the level does to the reader, wherever it stands. -/
def Level.Takes : Level → List Token → Expr → Prop
  | .factor, w, e => ∀ p outer,
    State.steps? ⟨.operand, p, outer⟩ w =
      some (State.take ⟨.operand, p, outer⟩ e)
  | .product, w, e => ∀ sum outer,
    State.steps? ⟨.operand, ⟨sum, none⟩, outer⟩ w =
      some ⟨.sign e, ⟨sum, none⟩, outer⟩
  | .sum, w, e => ∀ outer, ∃ sum left,
    State.steps? ⟨.operand, ⟨none, none⟩, outer⟩ w =
      some ⟨.sign left, ⟨sum, none⟩, outer⟩ ∧ join sum left = e

private theorem step?_times (ht : t.IsSign ["*", "/"]) :
    State.step? ⟨.sign left, p, outer⟩ t =
      some ⟨.operand, ⟨p.sum, some (left, .ofSign t.text)⟩, outer⟩ := by
  obtain ⟨hkind, htext⟩ := ht
  have hin : productSigns.contains t.text = true := by
    simp only [List.mem_cons, List.not_mem_nil, or_false] at htext
    rcases htext with h | h <;> rw [h] <;> decide
  simp only [State.step?, hkind, hin, if_true]

private theorem step?_plus (ht : t.IsSign ["+", "-"]) :
    State.step? ⟨.sign left, p, outer⟩ t =
      some ⟨.operand, ⟨some (join p.sum left, .ofSign t.text), none⟩,
        outer⟩ := by
  obtain ⟨hkind, htext⟩ := ht
  have hfits : productSigns.contains t.text = false ∧
      sumSigns.contains t.text = true := by
    simp only [List.mem_cons, List.not_mem_nil, or_false] at htext
    rcases htext with h | h <;> rw [h] <;> decide
  simp only [State.step?, hkind, hfits, if_true, Bool.false_eq_true, if_false]

/-- The links of a product are taken one after another. -/
private theorem steps?_timesLinks {links : List Link}
    (hsigns : ∀ l ∈ links, l.sign.IsSign ["*", "/"])
    (hrest : ∀ l ∈ links, Level.factor.Takes l.word l.tree) :
    State.steps? ⟨.sign left, ⟨sum, none⟩, outer⟩ (links.flatMap Link.tokens) =
      some ⟨.sign (links.foldl Link.onto left), ⟨sum, none⟩, outer⟩ := by
  induction links generalizing left with
  | nil => rfl
  | cons l links ih =>
      rw [List.flatMap_cons, Link.tokens, List.cons_append, State.steps?_cons,
        step?_times (hsigns l List.mem_cons_self)]
      show State.steps? _ (l.word ++ _) = _
      rw [State.steps?_append_of (hrest l List.mem_cons_self _ _)]
      exact ih (fun k hk => hsigns k (List.mem_cons_of_mem _ hk))
        fun k hk => hrest k (List.mem_cons_of_mem _ hk)

/-- So are the links of a sum. What waits in front of the last product, together
with it, is the sum so far. -/
private theorem steps?_plusLinks {links : List Link}
    (hsigns : ∀ l ∈ links, l.sign.IsSign ["+", "-"])
    (hrest : ∀ l ∈ links, Level.product.Takes l.word l.tree) :
    ∃ sum' left',
      State.steps? ⟨.sign left, ⟨sum, none⟩, outer⟩
        (links.flatMap Link.tokens) = some ⟨.sign left', ⟨sum', none⟩, outer⟩ ∧
      join sum' left' = links.foldl Link.onto (join sum left) := by
  induction links generalizing sum left with
  | nil => exact ⟨sum, left, rfl, rfl⟩
  | cons l links ih =>
      obtain ⟨sum', left', hsteps, hjoin⟩ :=
        @ih l.tree (some (join sum left, .ofSign l.sign.text))
          (fun k hk => hsigns k (List.mem_cons_of_mem _ hk))
          fun k hk => hrest k (List.mem_cons_of_mem _ hk)
      refine ⟨sum', left', ?_, hjoin⟩
      rw [List.flatMap_cons, Link.tokens, List.cons_append, State.steps?_cons,
        step?_plus (hsigns l List.mem_cons_self)]
      show State.steps? _ (l.word ++ _) = _
      rw [State.steps?_append_of (hrest l List.mem_cons_self _ _)]
      exact hsteps

/-- A word of any level is read as such in every place where it can stand. -/
theorem Derives.takes {level : Level} (h : Derives level w e) :
    level.Takes w e := by
  induction h with
  | number ht =>
      intro p outer
      simp only [State.steps?_cons, State.step?, ht]
      rfl
  | cell ht =>
      intro p outer
      simp only [State.steps?_cons, State.step?, ht]
      rfl
  | aggregate hf hl ha hc hb hr =>
      intro p outer
      simp only [State.steps?_cons, State.step?, hf, hl, ha, hc, hb, hr,
        Option.bind_some]
      rfl
  | @parens l r w e hl _ hr ih =>
      intro p outer
      obtain ⟨sum, left, hsteps, rfl⟩ := ih (p :: outer)
      rw [State.steps?_cons]
      simp only [State.step?, hl, Option.bind_some]
      show State.steps? ⟨.operand, ⟨none, none⟩, p :: outer⟩ (w ++ [r]) = _
      rw [State.steps?_append_of hsteps]
      simp only [State.steps?_cons, State.step?, hr]
      rfl
  | @product w e links _ hsigns _ ihfirst ihrest =>
      intro sum outer
      rw [State.steps?_append_of (ihfirst ⟨sum, none⟩ outer)]
      exact steps?_timesLinks hsigns ihrest
  | @sum w e links _ hsigns _ ihfirst ihrest =>
      intro outer
      obtain ⟨sum', left', hsteps, hjoin⟩ :=
        @steps?_plusLinks e none outer links hsigns ihrest
      exact ⟨sum', left', by
        rw [State.steps?_append_of (ihfirst none outer), hsteps], hjoin⟩

-- ============================================================== soundness

/-- The tokens from the name of a function on, up to what is read of its
form. -/
inductive Form.Spells (k : Token) : Form → List Token → Prop where
  | name : k.kind = .function → Spells k .name [k]
  | openParen {w : List Token} {t : Token} : Spells k .name w →
      t.kind = .leftParen → Spells k .openParen (w ++ [t])
  | first {w : List Token} {t : Token} : Spells k .openParen w →
      t.kind = .cell → Spells k (.first ⟨t.text, t.start⟩) (w ++ [t])
  | colon {w : List Token} {t : Token} {a : CellRef} : Spells k (.first a) w →
      t.kind = .colon → Spells k (.colon a) (w ++ [t])
  | last {w : List Token} {t : Token} {a : CellRef} : Spells k (.colon a) w →
      t.kind = .cell → Spells k (.last a ⟨t.text, t.start⟩) (w ++ [t])

/-- The tokens before an operand: what waits for it, and the open parentheses
with what waits before each. -/
inductive Opens : List Token → Pending → List Pending → Prop where
  | start : Opens [] ⟨none, none⟩ []
  | parens {w : List Token} {p : Pending} {outer : List Pending} {t : Token} :
      Opens w p outer → t.kind = .leftParen →
      Opens (w ++ [t]) ⟨none, none⟩ (p :: outer)
  | plus {w v : List Token} {outer : List Pending} {left : Expr} {t : Token} :
      Opens w ⟨none, none⟩ outer → Derives .sum v left → t.IsSign ["+", "-"] →
      Opens (w ++ v ++ [t]) ⟨some (left, .ofSign t.text), none⟩ outer
  | times {w v : List Token} {sum : Option (Expr × Operator)}
      {outer : List Pending} {left : Expr} {t : Token} :
      Opens w ⟨sum, none⟩ outer → Derives .product v left →
      t.IsSign ["*", "/"] →
      Opens (w ++ v ++ [t]) ⟨sum, some (left, .ofSign t.text)⟩ outer

/-- The tokens that lead the reader from its start to a state. -/
inductive Holds : List Token → State → Prop where
  | operand {w : List Token} {p : Pending} {outer : List Pending} :
      Opens w p outer → Holds w ⟨.operand, p, outer⟩
  | sign {w v : List Token} {sum : Option (Expr × Operator)}
      {outer : List Pending} {left : Expr} :
      Opens w ⟨sum, none⟩ outer → Derives .product v left →
      Holds (w ++ v) ⟨.sign left, ⟨sum, none⟩, outer⟩
  | form {w v : List Token} {p : Pending} {outer : List Pending} {k : Token}
      {read : Form} :
      Opens w p outer → read.Spells k v →
      Holds (w ++ v) ⟨.form k read, p, outer⟩

/-- A function form that is complete is a factor. -/
theorem Form.Spells.derives {k r : Token} {a b : CellRef}
    (h : (Form.last a b).Spells k w) (hr : r.kind = .rightParen) :
    Derives .factor (w ++ [r]) (.aggregate (upper k.text) a b k.start) := by
  cases h with
  | last h hb =>
    cases h with
    | colon h hc =>
      cases h with
      | first h ha =>
        cases h with
        | openParen h hl =>
          cases h with
          | name hk => exact .aggregate hk hl ha hc hb hr

namespace Opens

/-- After a factor, what waits of the product is a product with it. -/
private theorem take (h : Opens w p outer) (hv : Derives .factor v e) :
    Holds (w ++ v) (State.take ⟨.operand, p, outer⟩ e) := by
  cases h with
  | start => exact .sign .start hv.toProduct
  | parens h ht => exact .sign (.parens h ht) hv.toProduct
  | plus h hleft ht => exact .sign (.plus h hleft ht) hv.toProduct
  | times h hleft ht =>
    rw [List.append_assoc, List.append_assoc, List.singleton_append]
    exact .sign h (hleft.times ht hv)

/-- After a product, what waits of the sum is a sum with it. -/
private theorem close (h : Opens w ⟨sum, none⟩ outer)
    (hv : Derives .product v e) :
    ∃ w' v', w ++ v = w' ++ v' ∧ Opens w' ⟨none, none⟩ outer ∧
      Derives .sum v' (join sum e) := by
  cases h with
  | start => exact ⟨[], v, rfl, .start, hv.toSum⟩
  | @parens w p outer t h ht => exact ⟨w ++ [t], v, rfl, .parens h ht, hv.toSum⟩
  | @plus w u outer left t h hleft ht =>
    refine ⟨w, u ++ t :: v, ?_, h, hleft.plus ht hv⟩
    rw [List.append_assoc, List.append_assoc, List.singleton_append]

end Opens

/-- A token that fits keeps what the tokens read so far say of the state. -/
theorem Holds.step (h : Holds w s) (ht : t.Regular)
    (hstep : s.step? t = some next) :
    Holds (w ++ [t]) next := by
  cases h with
  | operand hopen =>
      cases hkind : t.kind <;> simp only [State.step?, hkind, reduceCtorEq,
        Option.some.injEq]
        at hstep <;> subst hstep
      case number => exact hopen.take (.number hkind)
      case cell => exact hopen.take (.cell hkind)
      case function => exact .form hopen (.name hkind)
      case leftParen => exact .operand (.parens hopen hkind)
  | @sign w v sum outer left hopen hleft =>
      by_cases hkind : t.kind = .operator
      · rcases ht.isSign hkind with hsign | hsign
        · rw [step?_times hsign] at hstep
          cases hstep
          exact .operand (.times hopen hleft hsign)
        · rw [step?_plus hsign] at hstep
          cases hstep
          obtain ⟨w', v', hsplit, hinner, hsum⟩ := hopen.close hleft
          rw [hsplit]
          exact .operand (.plus hinner hsum hsign)
      · -- the only other token that fits closes the innermost parentheses
        cases hparen : t.kind <;>
          simp only [State.step?, hparen, reduceCtorEq, not_true_eq_false]
            at hstep hkind
        case rightParen =>
          obtain ⟨w', v', hsplit, hinner, hsum⟩ := hopen.close hleft
          rw [hsplit]
          cases hinner with
          | start => cases hstep
          | parens houter hleftParen =>
              cases hstep
              simpa using houter.take (.parens hleftParen hsum hparen)
  | @form w v p outer k read hopen hread =>
      cases read <;> cases hkind : t.kind <;>
        simp only [State.step?, hkind, reduceCtorEq, Option.some.injEq]
          at hstep <;>
        subst hstep <;> rw [List.append_assoc]
      case name.leftParen => exact .form hopen (.openParen hread hkind)
      case openParen.cell => exact .form hopen (.first hread hkind)
      case first.colon => exact .form hopen (.colon hread hkind)
      case colon.cell => exact .form hopen (.last hread hkind)
      case last.rightParen => exact hopen.take (hread.derives hkind)

/-- So does a run. -/
theorem Holds.steps (h : Holds v s) (hw : ∀ t ∈ w, t.Regular)
    (hsteps : s.steps? w = some next) : Holds (v ++ w) next := by
  induction w generalizing v s with
  | nil =>
      cases hsteps
      rwa [List.append_nil]
  | cons t w ih =>
      rw [State.steps?_cons] at hsteps
      obtain ⟨mid, hstep, hsteps⟩ := Option.bind_eq_some_iff.mp hsteps
      have hmid := h.step (hw t List.mem_cons_self) hstep
      simpa using ih hmid (fun u hu => hw u (List.mem_cons_of_mem _ hu)) hsteps

/-- Where the formula may end, what was read is a sum. -/
theorem Holds.result (h : Holds w s) (hresult : s.result? = some e) :
    Derives .sum w e := by
  cases h with
  | operand hopen => cases hresult
  | form hopen hread => cases hresult
  | @sign w v sum outer left hopen hleft =>
      obtain ⟨w', v', hsplit, hinner, hsum⟩ := hopen.close hleft
      rw [hsplit]
      cases hinner with
      | parens => cases hresult
      | start =>
          cases hresult
          exact hsum

end

-- ================================================================= result

section

variable {tokens w : List Token} {e e' : Expr}

/-- What the reader gives a tree for is a word of the grammar. -/
theorem derives_of_ofTokens (hreg : ∀ t ∈ tokens, t.Regular)
    (h : ofTokens tokens = .ok e) :
    Derives .sum (word tokens) e := by
  obtain ⟨last, hsteps, hresult⟩ := State.read_eq_ok.mp h
  have hword : ∀ t ∈ word tokens, t.Regular := fun t ht =>
    hreg t ((List.takeWhile_prefix _).subset ht)
  exact (Holds.steps (.operand .start) hword hsteps).result hresult

/-- Every word of the grammar is given its tree. -/
theorem ofTokens_of_derives (h : Derives .sum (word tokens) e) :
    ofTokens tokens = .ok e := by
  obtain ⟨sum, left, hsteps, rfl⟩ := h.takes []
  exact State.read_eq_ok.mpr ⟨_, hsteps, rfl⟩

/-- The tokens of a text are regular, and on regular tokens the reader gives a
tree exactly where the tokens before the end are a word of the grammar. The tree
is that of the word. -/
theorem ofTokens_eq_ok_iff_derives :
    (∀ keywords limit text tokens, tokenize keywords limit text =
      .ok (.ok tokens) → ∀ t ∈ tokens, t.Regular) ∧
    ∀ tokens : List Token, (∀ t ∈ tokens, t.Regular) → ∀ e : Expr,
      ofTokens tokens = .ok e ↔ Derives .sum (word tokens) e :=
  ⟨fun _ _ _ _ => regular_of_tokenize, fun _ hreg _ =>
    ⟨derives_of_ofTokens hreg, ofTokens_of_derives⟩⟩

/-- Signs of one level group to the left, and a product binds tighter. -/
theorem ofTokens_eq_ok_iff_derives_grouping :
    let tokens : List Token := [⟨.number, "8", 0⟩, ⟨.operator, "-", 1⟩,
      ⟨.cell, "A0", 2⟩, ⟨.operator, "/", 4⟩, ⟨.leftParen, "(", 5⟩,
      ⟨.function, "sum", 6⟩, ⟨.leftParen, "(", 9⟩, ⟨.cell, "A0", 10⟩,
      ⟨.colon, ":", 12⟩, ⟨.cell, "b1", 13⟩, ⟨.rightParen, ")", 15⟩,
      ⟨.rightParen, ")", 16⟩, ⟨.operator, "-", 17⟩, ⟨.cell, "B0", 18⟩,
      ⟨.eof, "", 20⟩]
    (∀ t ∈ tokens, t.Regular) ∧ Derives .sum (word tokens)
      (.binary .sub
        (.binary .sub (.number (numeralValue "8") "8" 0)
          (.binary .div (.ref ⟨"A0", 2⟩)
            (.aggregate "SUM" ⟨"A0", 10⟩ ⟨"b1", 13⟩ 6) 2) 0)
        (.ref ⟨"B0", 18⟩) 0) := by
  have hreg := ofTokens_eq_ok_iff_derives.1 ["SUM"] none "8-A0/(sum(A0:b1))-B0"
    _ rfl
  exact ⟨hreg, (ofTokens_eq_ok_iff_derives.2 _ hreg _).mp rfl⟩

end

end Expr

end Worksheet
