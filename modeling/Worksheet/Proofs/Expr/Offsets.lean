/-
Where the parts of an expression were written.

A tree keeps neither parentheses nor signs in their places, but it does keep its
operands: its leaves are the number and cell tokens of the formula, in their
order (`Derives.leaves_eq`). The tokens of a text are slices of it that follow
each other, and so are the leaves.

An operation is built when its right part is complete, and takes over the offset
of its left part. A whole chain of operations therefore begins where its first
operand does, and so does each part of the chain: every node begins where the
part written first in it does (`Anchored`). This part is a leaf, or it is a
function form, which begins at the name of the function.
-/
import Worksheet.Proofs.Expr.RoundTrip
import Worksheet.Proofs.Token.Tiling

namespace Worksheet

open Text (upper)

-- ================================================================= leaves

/-- The leaf that a token becomes. Only numbers and cells do. -/
def Token.leaf? (t : Token) : Option Expr :=
  match t.kind with
  | .number => some (.number (numeralValue t.text) t.text t.start)
  | .cell => some (.ref ⟨t.text, t.start⟩)
  | _ => none

namespace Token

variable {t : Token} {e : Expr}

private theorem leaf?_number (h : t.kind = .number) :
    t.leaf? = some (.number (numeralValue t.text) t.text t.start) := by
  rw [leaf?, h]

private theorem leaf?_cell (h : t.kind = .cell) :
    t.leaf? = some (.ref ⟨t.text, t.start⟩) := by
  rw [leaf?, h]

private theorem leaf?_eq_none (hnumber : t.kind ≠ .number)
    (hcell : t.kind ≠ .cell) :
    t.leaf? = none := by
  unfold leaf?
  split
  · next h => exact absurd h hnumber
  · next h => exact absurd h hcell
  · rfl

/-- A leaf keeps the text and the offset of its token. -/
theorem of_leaf? (h : t.leaf? = some e) :
    e.render = t.text ∧ e.start = t.start := by
  unfold leaf? at h
  split at h
  · cases h
    exact ⟨rfl, rfl⟩
  · cases h
    exact ⟨rfl, rfl⟩
  · cases h

end Token

namespace Expr

variable {e tree : Expr} {level : Level} {w tokens : List Token}
  {links : List Link} {signs : List String} {keywords : List String}
  {limit : Option Int} {text : String}

private theorem leaves_foldl : (links.foldl Link.onto e).leaves =
    e.leaves ++ links.flatMap fun l => l.tree.leaves := by
  induction links generalizing e with
  | nil => rw [List.flatMap_nil, List.append_nil, List.foldl_nil]
  | cons l links ih =>
      rw [List.foldl_cons, ih, Link.onto, leaves, List.flatMap_cons,
      List.append_assoc]

/-- The signs of a chain leave no leaves. -/
private theorem filterMap_links (hsigns : ∀ l ∈ links, l.sign.IsSign signs)
    (hrest : ∀ l ∈ links, l.tree.leaves = l.word.filterMap Token.leaf?) :
    (links.flatMap Link.tokens).filterMap Token.leaf? =
      links.flatMap fun l => l.tree.leaves := by
  induction links with
  | nil => rfl
  | cons l links ih =>
      obtain ⟨hsign, hsigns⟩ := List.forall_mem_cons.mp hsigns
      obtain ⟨hl, hrest⟩ := List.forall_mem_cons.mp hrest
      have hnone : l.sign.leaf? = none :=
        Token.leaf?_eq_none (by rw [hsign.1]; exact nofun)
          (by rw [hsign.1]; exact nofun)
      rw [List.flatMap_cons, List.flatMap_cons, Link.tokens,
        List.filterMap_append,
        List.filterMap_cons_none hnone, ih hsigns hrest, hl]

/-- The leaves of a tree are the number and cell tokens of its word. -/
theorem Derives.leaves_eq (h : Derives level w e) :
    e.leaves = w.filterMap Token.leaf? := by
  induction h with
  | number ht => rw [List.filterMap_cons_some (Token.leaf?_number ht)]; rfl
  | cell ht => rw [List.filterMap_cons_some (Token.leaf?_cell ht)]; rfl
  | @aggregate f l a c b r hf hl ha hc hb hr =>
      simp [leaves, Token.leaf?, hf, hl, ha, hc, hb, hr]
  | @parens l r w e hl _ hr ih =>
      simp [Token.leaf?, hl, hr, ih]
  | product _ hsigns _ ihfirst ihrest =>
      rw [leaves_foldl, List.filterMap_append, filterMap_links hsigns ihrest,
        ihfirst]
  | sum _ hsigns _ ihfirst ihrest =>
      rw [leaves_foldl, List.filterMap_append, filterMap_links hsigns ihrest,
        ihfirst]

-- ================================================================== parts

/-- The nodes of a tree: the tree itself, and those of its parts. -/
def parts : Expr → List Expr
  | number value text start => [number value text start]
  | ref cell => [ref cell]
  | binary op left right start =>
    binary op left right start :: (left.parts ++ right.parts)
  | aggregate name first last start =>
      [aggregate name first last start, ref first, ref last]
  | hole text => [hole text]

/-- The part of a tree that is written first: a leaf or a function form. -/
def leftmost : Expr → Expr
  | binary _ left _ _ => left.leftmost
  | e => e

/-- The tree is a function form that stands among the tokens, and this is its
name. -/
structure Calls (tokens : List Token) (e : Expr) (keyword : Token) : Prop where
  function : keyword.kind = .function
  form : ∃ v, keyword :: v <:+: tokens ∧ Derives .factor (keyword :: v) e
  start : e.start = keyword.start

/-- The leaves and forms of the tree stand among the tokens, and every operation
begins where its left part does. -/
def Anchored (tokens : List Token) : Expr → Prop
  | number value text start =>
    ∃ t ∈ tokens, t.leaf? = some (number value text start)
  | ref cell => ∃ t ∈ tokens, t.leaf? = some (ref cell)
  | binary _ left right start =>
    start = left.start ∧ left.Anchored tokens ∧ right.Anchored tokens
  | aggregate name first last start =>
      ∃ k, Calls tokens (aggregate name first last start) k
  | hole _ => False

private theorem Anchored.foldl (h : e.Anchored tokens)
    (hrest : ∀ l ∈ links, l.tree.Anchored tokens) :
    (links.foldl Link.onto e).Anchored tokens := by
  induction links generalizing e with
  | nil => exact h
  | cons l links ih =>
      obtain ⟨hl, hrest⟩ := List.forall_mem_cons.mp hrest
      exact ih ⟨rfl, h, hl⟩ hrest

/-- The words of the links are parts of the chain. -/
private theorem isInfix_of_mem_links {l : Link} (hl : l ∈ links) :
    l.word <:+: w ++ links.flatMap Link.tokens := by
  obtain ⟨before, after, rfl⟩ := List.append_of_mem hl
  refine ⟨w ++ before.flatMap Link.tokens ++ [l.sign],
    after.flatMap Link.tokens, ?_⟩
  simp [Link.tokens]

private theorem Derives.anchored (h : Derives level w e) (hw : w <:+: tokens) :
    e.Anchored tokens := by
  induction h with
  | number ht => exact ⟨_, hw.subset List.mem_cons_self, Token.leaf?_number ht⟩
  | cell ht => exact ⟨_, hw.subset List.mem_cons_self, Token.leaf?_cell ht⟩
  | aggregate hf hl ha hc hb hr =>
      exact ⟨_, hf, ⟨_, hw, Derives.aggregate hf hl ha hc hb hr⟩, rfl⟩
  | @parens l r w e _ _ _ ih =>
      exact ih (List.IsInfix.trans ⟨[l], [r], by simp⟩ hw)
  | product _ _ _ ihfirst ihrest =>
      exact (ihfirst ((List.prefix_append _ _).isInfix.trans hw)).foldl
          fun l hl =>
        ihrest l hl ((isInfix_of_mem_links hl).trans hw)
  | sum _ _ _ ihfirst ihrest =>
      exact (ihfirst ((List.prefix_append _ _).isInfix.trans hw)).foldl
          fun l hl =>
        ihrest l hl ((isInfix_of_mem_links hl).trans hw)

/-- More tokens at the end do no harm. -/
theorem Derives.anchored_append (h : Derives level w e) (rest : List Token) :
    e.Anchored (w ++ rest) :=
  h.anchored (List.prefix_append w rest).isInfix

namespace Anchored

/-- The corners of a function form are tokens of it. -/
private theorem corners {name : String} {first last : CellRef} {start : Int}
    (h : (aggregate name first last start).Anchored tokens) :
    (ref first).Anchored tokens ∧ (ref last).Anchored tokens := by
  obtain ⟨k, hfunction, ⟨v, hv, hform⟩, -⟩ := h
  cases hform with
  | aggregate _ _ ha _ hb _ =>
      exact ⟨⟨_, hv.subset (by simp), Token.leaf?_cell ha⟩,
        ⟨_, hv.subset (by simp), Token.leaf?_cell hb⟩⟩
  | parens hl _ _ => cases hfunction.symm.trans hl

theorem of_mem_parts (h : tree.Anchored tokens) :
    ∀ e ∈ tree.parts, e.Anchored tokens := by
  induction tree with
  | number value text start => exact List.forall_mem_singleton.mpr h
  | ref cell => exact List.forall_mem_singleton.mpr h
  | binary op left right start ihl ihr =>
      exact List.forall_mem_cons.mpr
        ⟨h, List.forall_mem_append.mpr ⟨ihl h.2.1, ihr h.2.2⟩⟩
  | aggregate name first last start =>
      obtain ⟨hfirst, hlast⟩ := corners h
      exact List.forall_mem_cons.mpr ⟨h, List.forall_mem_cons.mpr
        ⟨hfirst, List.forall_mem_singleton.mpr hlast⟩⟩
  | hole text => exact h.elim

/-- A node begins where the part written first in it does, and this part is its
first leaf or a function form. -/
theorem start_eq (h : e.Anchored tokens) : e.start = e.leftmost.start ∧
    ((e.leaves.head? = some e.leftmost ∧
      ∃ t ∈ tokens, t.leaf? = some e.leftmost) ∨
      ∃ k, Calls tokens e.leftmost k) := by
  induction e with
  | number value text start => exact ⟨rfl, Or.inl ⟨rfl, h⟩⟩
  | ref cell => exact ⟨rfl, Or.inl ⟨rfl, h⟩⟩
  | binary op left right start ihl ihr =>
      obtain ⟨hstart, hleft, -⟩ := h
      obtain ⟨heq, hfirst⟩ := ihl hleft
      refine ⟨hstart.trans heq, hfirst.imp_left fun ⟨hhead, htoken⟩ =>
        ⟨?_, htoken⟩⟩
      rw [leaves, List.head?_append, hhead]
      rfl
  | aggregate name first last start => exact ⟨rfl, Or.inr h⟩
  | hole text => exact h.elim

end Anchored

-- ================================================================= reading

/-- The tokens in front of the end, which the tree of a text was derived
from. -/
theorem derives_of_ofText (h : ofText keywords limit text = .ok (.ok tree)) :
    ∃ w, tokenize keywords limit text =
      .ok (.ok (w ++ [⟨.eof, "", text.length⟩])) ∧
      Tiles (keywords.map upper) text.toList (pieces text.toList) w ∧
      Derives .sum w tree := by
  obtain ⟨tokens, htokens, hread⟩ := ofText_eq_ok_iff.mp h
  obtain ⟨w, rfl, htiles⟩ := tiles_of_tokenize htokens
  have hderives := derives_of_ofTokens (regular_of_tokenize htokens) hread
  rw [word_append_eof (fun t ht => (htiles.lexeme t ht).kind_ne_eof) rfl]
    at hderives
  exact ⟨w, htokens, htiles, hderives⟩

/-- Leaves begin one after the other, as the tokens do. -/
private theorem pairwise_start_leaves
    (h : w.Pairwise fun t u => t.start < u.start) :
    ((w.filterMap Token.leaf?).map start).Pairwise (· < ·) := by
  refine List.pairwise_map.mpr (h.filterMap Token.leaf?
    fun t u hlt a ha b hb => ?_)
  rw [(Token.of_leaf? ha).2, (Token.of_leaf? hb).2]
  exact hlt

/-- A tree keeps where it was written: its leaves are the number and cell tokens
of the text, in their order, each of them a slice of the text at its offset; and
every node begins where the part written first in it does, its first leaf or the
name of a function. -/
theorem ofText_offsets (h : ofText keywords limit text = .ok (.ok tree)) :
    ∃ tokens, tokenize keywords limit text = .ok (.ok tokens) ∧
      tree.leaves = tokens.filterMap Token.leaf? ∧
      (∀ e ∈ tree.leaves, StandsAt text.toList e.start e.render.toList) ∧
      (tree.leaves.map start).Pairwise (· < ·) ∧
      ∀ e ∈ tree.parts, e.start = e.leftmost.start ∧
        (e.leaves.head? = some e.leftmost ∨
          ∃ k, Calls tokens e.leftmost k) := by
  obtain ⟨w, htokens, htiles, hderives⟩ := derives_of_ofText h
  have hleaves := hderives.leaves_eq
  refine ⟨_, htokens, ?_, fun e he => ?_, ?_, fun e he => ?_⟩
  · rw [hleaves, List.filterMap_append, List.filterMap_cons_none rfl,
      List.filterMap_nil, List.append_nil]
  · rw [hleaves] at he
    obtain ⟨t, ht, hleaf⟩ := List.mem_filterMap.mp he
    obtain ⟨hrender, hstart⟩ := Token.of_leaf? hleaf
    rw [hrender, hstart]
    exact htiles.stands t ht
  · rw [hleaves]
    exact pairwise_start_leaves htiles.start_lt
  · obtain ⟨hstart, hfirst⟩ :=
      ((hderives.anchored_append _).of_mem_parts e he).start_eq
    exact ⟨hstart, hfirst.imp_left And.left⟩

/-- Parentheses leave no node, and an operation on a function form starts at its
name. -/
theorem ofText_offsets_form :
    let form : Expr := .aggregate "SUM" ⟨"A0", 5⟩ ⟨"b1", 8⟩ 1
    let left : Expr := .binary .sub form (.number (numeralValue "2,5")
      "2,5" 12) 1
    let tree : Expr := .binary .mul left (.ref ⟨"C3", 17⟩) 1
    ofText ["SUM"] none "(sum(A0:b1)-2,5)*C3" = .ok (.ok tree) ∧
      tree.leaves.map start = [5, 8, 12, 17] ∧
      tree.leaves.map render = ["A0", "b1", "2,5", "C3"] ∧
      StandsAt "(sum(A0:b1)-2,5)*C3".toList 12 "2,5".toList ∧
      left ∈ tree.parts ∧ left.start = form.start ∧
      ∃ tokens k, Calls tokens form k := by
  intro form left tree
  have hread : ofText ["SUM"] none "(sum(A0:b1)-2,5)*C3" = .ok (.ok tree) := rfl
  obtain ⟨tokens, -, -, hstands, -, hparts⟩ := ofText_offsets hread
  have hleft : left ∈ tree.parts := by simp [tree, left, parts]
  obtain ⟨hstart, hfirst⟩ := hparts left hleft
  refine ⟨hread, rfl, rfl, hstands (.number (numeralValue "2,5") "2,5" 12) ?_,
    hleft, hstart, tokens, hfirst.resolve_left nofun⟩
  simp [tree, left, form, leaves]

end Expr

end Worksheet
