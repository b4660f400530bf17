/-
The operations of an expression, one after another.

The nodes of a tree are its operations: each takes the values of its parts,
and comes after them (`operations`). What can be asked about a single operation
does not mention the evaluator. It has a request to make or not (`request?`), an
answer hands it cells to read (`reads`), and it fails for one of five reasons
(`Fails`). The value of a tree is given by a recursion that knows of no failure
at all (`value?`).

Answers may depend on what was asked before. A tree mentions its cells and
ranges from left to right (`requests`), and up to the first failure each
mention has been a request. So the requests made before an operation are known
without running anything; every operation carries those that were made before
the first of its parts.

Evaluation goes through the operations in this order and stops at the first one
that fails (`run_inOrder`). Either there is none: then all requests were made,
all cells handed over were read, and the value is that of the recursion. Or
there is a first one: then its error is the result, and the requests are those
of the operations up to it.
-/
import Worksheet.Proofs.Expr.Eval

namespace Worksheet

-- ================================================================ answers

/-- Answers to all requests: a value, or the reason why there is none. The first
argument holds the requests made before. -/
structure Answers where
  cell : List Request → String → Except LookupError CellReading
  range : List Request → String → String → Except LookupError RangeReading

/-- The source that gives these answers. -/
def Answers.source (a : Answers) : Source where
  cell asked name := .ok (a.cell asked name)
  range asked first last := .ok (a.range asked first last)

/-- The names in a request. -/
def Request.names : Request → List String
  | .cell name => [name]
  | .range first last => [first, last]

namespace Expr

-- ================================================================== trees

/-- Nothing is missing in the tree: no hole, and no sign without a meaning. -/
def Complete : Expr → Prop
  | number .. | ref _ | aggregate .. => True
  | binary op left right _ =>
    (∀ sign, op ≠ .other sign) ∧ left.Complete ∧ right.Complete
  | hole _ => False

/-- The cells and ranges that a tree mentions, from left to right. -/
def requests : Expr → List Request
  | number .. => []
  | ref cell => [.cell cell.name]
  | binary _ left right _ => left.requests ++ right.requests
  | aggregate _ first last _ => [.range first.name last.name]
  | hole _ => []

/-- The name in a leaf that mentions a cell. -/
def mention? : Expr → Option String
  | ref cell => some cell.name
  | _ => none

/-- The requests of a tree follow its leaves. -/
theorem names_requests (e : Expr) :
    e.requests.flatMap Request.names = e.leaves.filterMap mention? := by
  induction e with
  | number value text start => rfl
  | ref cell => rfl
  | binary op left right start ihl ihr =>
      rw [requests, leaves, List.flatMap_append, List.filterMap_append,
        ihl, ihr]
  | aggregate name first last start => rfl
  | hole text => rfl

/-- The value of a tree by plain recursion: sums of values, products of values,
aggregates of the values of a range. -/
def value? (a : Answers) (functions : Registry) (asked : List Request) :
    Expr → Option Float
  | number value _ _ => some value
  | ref cell => (a.cell asked cell.name).toOption.map CellReading.value
  | binary op left right _ => do
    let f ← op.arithmetic?
    let x ← left.value? a functions asked
    let y ← right.value? a functions (asked ++ left.requests)
    return f x y
  | aggregate name first last _ => do
    let f ← functions.get? name
    let reading ← (a.range asked first.name last.name).toOption
    (f reading.values).toOption
  | hole _ => none

-- ============================================================= operations

/-- A node of a tree, and the requests made before the first of its parts. -/
structure Operation where
  asked : List Request
  node : Expr

/-- The operations of a tree, each one after those of its parts. -/
def operations (asked : List Request) : Expr → List Operation
  | number value text start => [⟨asked, number value text start⟩]
  | ref cell => [⟨asked, ref cell⟩]
  | binary op left right start =>
    left.operations asked ++ right.operations (asked ++ left.requests) ++
      [⟨asked, binary op left right start⟩]
  | aggregate name first last start =>
    [⟨asked, aggregate name first last start⟩]
  | hole text => [⟨asked, hole text⟩]

namespace Operation

/-- The request that an operation makes. A function that is not known asks for
nothing. -/
def request? (functions : Registry) (o : Operation) : Option Request :=
  match o.node with
  | ref cell => some (.cell cell.name)
  | aggregate name first last _ =>
    (functions.get? name).map fun _ => .range first.name last.name
  | _ => none

/-- The cells that an operation reads: those that come with the answer to its
request. -/
def reads (a : Answers) (o : Operation) : List Int :=
  match o.node with
  | ref cell => match a.cell o.asked cell.name with
    | .ok reading => [reading.index]
    | .error _ => []
  | aggregate _ first last _ => match a.range o.asked first.name last.name with
    | .ok reading => reading.indices
    | .error _ => []
  | _ => []

/-- The operation fails with an error, provided that its parts have values. -/
inductive Fails (a : Answers) (functions : Registry) : Operation → EvalError →
    Prop where
  /-- The cell is refused. -/
  | cell {asked : List Request} {cell : CellRef} {e : LookupError} :
      a.cell asked cell.name = .error e →
      Fails a functions ⟨asked, ref cell⟩ ⟨e.kind, ref cell, e.cell, ""⟩
  /-- The divisor is zero. -/
  | zero {asked : List Request} {left right : Expr} {start : Int} {y : Float} :
      right.value? a functions (asked ++ left.requests) = some y →
      (y == 0) = true →
      Fails a functions ⟨asked, binary .div left right start⟩
        ⟨.divideByZero, right, none, ""⟩
  /-- The function is not known. -/
  | unknown {asked : List Request} {name : String} {first last : CellRef}
      {start : Int} :
      functions.get? name = none →
      Fails a functions ⟨asked, aggregate name first last start⟩
        ⟨.unknownFunction, aggregate name first last start, none, name⟩
  /-- The range is refused. -/
  | range {asked : List Request} {name : String} {first last : CellRef}
      {start : Int} {f : Aggregate} {e : LookupError} :
      functions.get? name = some f →
      a.range asked first.name last.name = .error e →
      Fails a functions ⟨asked, aggregate name first last start⟩
        ⟨e.kind, aggregate name first last start, e.cell, ""⟩
  /-- The function has no answer for the values. -/
  | function {asked : List Request} {name : String} {first last : CellRef}
      {start : Int} {f : Aggregate} {reading : RangeReading}
      {e : AggregateError} :
      functions.get? name = some f →
      a.range asked first.name last.name = .ok reading →
      f reading.values = .error e →
      Fails a functions ⟨asked, aggregate name first last start⟩
        ⟨.functionError, aggregate name first last start, none, e.text⟩

end Operation

-- ============================================================= evaluation

variable {a : Answers} {functions : Registry} {e : Expr} {t : Trace}
  {o : Operation} {err : EvalError} {ops before : List Operation}

/-- None of the operations fails. -/
def AllSucceed (a : Answers) (functions : Registry) (ops : List Operation) :
    Prop :=
  ∀ o ∈ ops, ∀ err, ¬ o.Fails a functions err

private theorem allSucceed_append {ops' : List Operation} :
    AllSucceed a functions (ops ++ ops') ↔
      AllSucceed a functions ops ∧ AllSucceed a functions ops' :=
  List.forall_mem_append

/-- The requests that operations make, one after another. -/
def asking (functions : Registry) (ops : List Operation) : List Request :=
  ops.filterMap (·.request? functions)

private theorem asking_append {ops' : List Operation} :
    asking functions (ops ++ ops') =
      asking functions ops ++ asking functions ops' :=
  List.filterMap_append

/-- The first of some operations that fails, with those in front of it and its
error. -/
structure FirstFailure (a : Answers) (functions : Registry)
    (ops before : List Operation) (o : Operation) (err : EvalError) : Prop where
  split : ∃ after, ops = before ++ o :: after
  succeed : AllSucceed a functions before
  fails : o.Fails a functions err

namespace FirstFailure

/-- Operations that come later do not matter. -/
private theorem append_right (h : FirstFailure a functions ops before o err)
    (later : List Operation) :
    FirstFailure a functions (ops ++ later) before o err := by
  obtain ⟨after, hsplit⟩ := h.split
  refine ⟨⟨after ++ later, ?_⟩, h.succeed, h.fails⟩
  rw [hsplit, List.append_assoc, List.cons_append]

/-- Nor do operations that have succeeded before. -/
private theorem append_left {earlier : List Operation}
    (hearlier : AllSucceed a functions earlier)
    (h : FirstFailure a functions ops before o err) :
    FirstFailure a functions (earlier ++ ops) (earlier ++ before) o err := by
  obtain ⟨after, hsplit⟩ := h.split
  refine ⟨⟨after, ?_⟩, allSucceed_append.mpr ⟨hearlier, h.succeed⟩, h.fails⟩
  rw [hsplit, List.append_assoc]

/-- An operation that is alone and fails is the first one. -/
private theorem single (h : o.Fails a functions err) :
    FirstFailure a functions [o] [] o err :=
  ⟨⟨[], rfl⟩, nofun, h⟩

end FirstFailure

/-- What an evaluation comes to when it goes through the operations of its tree
in order: an outcome and a trace, after the requests and the reads that were
there before. -/
inductive InOrder (a : Answers) (functions : Registry) (e : Expr)
    (asked : List Request) (read : List Int) (outcome : Outcome) (t : Trace) :
    Prop where
  /-- No operation fails. -/
  | completed {v : Float}
      (succeed : AllSucceed a functions (e.operations asked))
      (value : e.value? a functions asked = some v)
      (all : asking functions (e.operations asked) = e.requests)
      (result : outcome = .ok (.ok v))
      (requests : t.requests = asked ++ e.requests)
      (reads : t.reads = read ++ (e.operations asked).flatMap (·.reads a))
  /-- The evaluation stops at the first operation that fails. -/
  | stopped {before : List Operation} {o : Operation} {err : EvalError}
      (first : FirstFailure a functions (e.operations asked) before o err)
      (some : asking functions (before ++ [o]) <+: e.requests)
      (result : outcome = .ok (.error err))
      (requests : t.requests = asked ++ asking functions (before ++ [o]))

/-- An operation without parts is first and last. -/
private theorem allSucceed_single (h : ∀ err, ¬ o.Fails a functions err) :
    AllSucceed a functions [o] :=
  fun _ ho => List.mem_singleton.mp ho ▸ h

/-- A cell is asked for, and read if there is an answer. -/
private theorem inOrder_ref (a : Answers) (functions : Registry) (t : Trace)
    (cell : CellRef) :
    InOrder a functions (ref cell) t.requests t.reads
      ((ref cell).run a.source functions t).1
      ((ref cell).run a.source functions t).2 := by
  unfold run Answers.source
  dsimp only
  cases hcell : a.cell t.requests cell.name with
  | error e =>
      exact .stopped (.single (.cell hcell)) (List.prefix_refl [_]) rfl rfl
  | ok reading =>
      refine .completed (allSucceed_single fun err hfails => ?_) ?_ rfl
        rfl rfl ?_
      · cases hfails with
        | cell hrefused => cases hcell.symm.trans hrefused
      · rw [value?, hcell]
        rfl
      · simp [operations, Operation.reads, hcell, Trace.ask, Trace.use]

/-- A range is asked for if the function is known, and read if there is an
answer, whatever the function makes of it. -/
private theorem inOrder_aggregate (a : Answers) (functions : Registry)
    (t : Trace) (name : String) (first last : CellRef) (start : Int) :
    InOrder a functions (aggregate name first last start) t.requests t.reads
      ((aggregate name first last start).run a.source functions t).1
      ((aggregate name first last start).run a.source functions t).2 := by
  unfold run Answers.source
  dsimp only
  cases hf : functions.get? name with
  | none =>
      have hasking : asking functions
          ((aggregate name first last start).operations t.requests) = [] := by
        simp [asking, operations, Operation.request?, hf]
      refine .stopped (.single (.unknown hf)) ?_ rfl ?_
      · exact hasking ▸ List.nil_prefix
      · exact (hasking ▸ List.append_nil _).symm
  | some f =>
      have hasking : asking functions
          ((aggregate name first last start).operations t.requests) =
            [.range first.name last.name] := by
        simp [asking, operations, Operation.request?, hf]
      have hprefix : asking functions
          ((aggregate name first last start).operations t.requests) <+:
            (aggregate name first last start).requests :=
        hasking ▸ List.prefix_refl _
      have htrace : (t.ask (.range first.name last.name)).requests =
          t.requests ++ asking functions
            ((aggregate name first last start).operations t.requests) :=
        hasking ▸ rfl
      dsimp only
      cases hrange : a.range t.requests first.name last.name with
      | error e =>
          exact .stopped (.single (.range hf hrange)) hprefix rfl htrace
      | ok reading =>
          dsimp only
          cases hvalue : f reading.values with
          | error e =>
              exact .stopped (.single (.function hf hrange hvalue)) hprefix
                rfl htrace
          | ok v =>
              refine .completed (allSucceed_single fun err hfails => ?_)
                ?_ hasking rfl rfl ?_
              · cases hfails with
                | unknown hnone => cases hf.symm.trans hnone
                | range _ hrefused => cases hrange.symm.trans hrefused
                | function hf' hread hnone =>
                  cases hf.symm.trans hf'
                  cases hrange.symm.trans hread
                  cases hvalue.symm.trans hnone
              · rw [value?, hf, hrange]
                show (f reading.values).toOption = some v
                rw [hvalue]
                rfl
              · simp [operations, Operation.reads, hrange, Trace.ask, Trace.use]

section

variable {op : Operator} {left right : Expr} {start : Int}
  {asked : List Request} {read : List Int} {x y : Float}
  (hsucceed : AllSucceed a functions (left.operations asked))
  (hall : asking functions (left.operations asked) = left.requests)

include hsucceed hall

/-- If the right part fails, the whole fails after the requests of the left
part. -/
private theorem inOrder_of_right
    (hfirst : FirstFailure a functions
      (right.operations (asked ++ left.requests)) before o err)
    (hsome : asking functions (before ++ [o]) <+: right.requests)
    (hrequests : t.requests =
      asked ++ left.requests ++ asking functions (before ++ [o])) :
    InOrder a functions (binary op left right start) asked read
      (.ok (.error err)) t := by
  have hasking : asking functions (left.operations asked ++ before ++ [o]) =
      left.requests ++ asking functions (before ++ [o]) := by
    rw [List.append_assoc, asking_append, hall]
  refine .stopped ((hfirst.append_left hsucceed).append_right _) ?_ rfl ?_
  · rw [hasking]
    exact (List.prefix_append_right_inj _).mpr hsome
  · rw [hrequests, hasking, List.append_assoc]

/-- If both parts have values, it remains to apply the operation to these. -/
private theorem inOrder_apply (hop : ∀ sign, op ≠ .other sign)
    (hsucceed' : AllSucceed a functions
      (right.operations (asked ++ left.requests)))
    (hall' : asking functions (right.operations (asked ++ left.requests)) =
      right.requests)
    (hx : left.value? a functions asked = some x)
    (hy : right.value? a functions (asked ++ left.requests) = some y)
    (hrequests : t.requests = asked ++ left.requests ++ right.requests)
    (hreads : t.reads = read ++ (left.operations asked).flatMap (·.reads a) ++
      (right.operations (asked ++ left.requests)).flatMap (·.reads a)) :
    InOrder a functions (binary op left right start) asked read
      (op.apply x y right) t := by
  have hparts := allSucceed_append.mpr ⟨hsucceed, hsucceed'⟩
  have hasking : asking functions
      ((binary op left right start).operations asked) =
        (binary op left right start).requests := by
    rw [operations, asking_append, asking_append, hall, hall']
    exact List.append_nil _
  have htrace : t.requests =
      asked ++ (binary op left right start).requests := by
    rw [hrequests, requests, List.append_assoc]
  rcases op.apply_cases x y right with
    ⟨sign, hsign, -⟩ | ⟨rfl, hzero, happly⟩ | ⟨f, hf, hnonzero, happly⟩
  · exact absurd hsign (hop sign)
  · have hfails : Operation.Fails a functions
        ⟨asked, binary .div left right start⟩ _ :=
      .zero hy hzero
    have hfirst := (FirstFailure.single hfails).append_left hparts
    rw [List.append_nil] at hfirst
    exact .stopped hfirst (hasking ▸ List.prefix_refl _) happly
      (htrace.trans (hasking ▸ rfl))
  · refine .completed (allSucceed_append.mpr
      ⟨hparts, allSucceed_single fun err hfails => ?_⟩)
      ?_ hasking happly htrace ?_
    · cases hfails with
      | zero hy' hzero =>
        cases hy.symm.trans hy'
        exact Bool.false_ne_true ((hnonzero rfl).symm.trans hzero)
    · rw [value?, hf, hx, hy]
      rfl
    · rw [hreads, List.append_assoc, operations, List.flatMap_append,
        List.flatMap_append]
      exact congrArg _ (List.append_nil _).symm

end

/-- An evaluation goes through the operations of its tree in order. -/
theorem run_inOrder (a : Answers) (functions : Registry) (t : Trace)
    (h : e.Complete) :
    InOrder a functions e t.requests t.reads (e.run a.source functions t).1
      (e.run a.source functions t).2 := by
  induction e generalizing t with
  | number value text start =>
      exact .completed (allSucceed_single nofun) rfl rfl rfl
        (List.append_nil _).symm (List.append_nil _).symm
  | ref cell => exact inOrder_ref a functions t cell
  | binary op left right start ihl ihr =>
      obtain ⟨hop, hl, hr⟩ := h
      have hleft := ihl t hl
      unfold run
      generalize left.run a.source functions t = ran at hleft ⊢
      obtain ⟨outcome, t₁⟩ := ran
      cases hleft with
      | stopped hfirst hsome hresult hrequests =>
          cases hresult
          exact .stopped ((hfirst.append_right _).append_right _)
            (hsome.trans (List.prefix_append _ _)) rfl hrequests
      | @completed x hsucceed hx hall hresult hrequests hreads =>
          cases hresult
          have hright := ihr t₁ hr
          rw [hrequests, hreads] at hright
          dsimp only
          generalize right.run a.source functions t₁ = ran at hright ⊢
          obtain ⟨outcome, t₂⟩ := ran
          cases hright with
          | stopped hfirst hsome hresult hrequests' =>
              cases hresult
              exact inOrder_of_right hsucceed hall hfirst hsome hrequests'
          | completed hsucceed' hy hall' hresult hrequests' hreads' =>
              cases hresult
              exact inOrder_apply hsucceed hall hop hsucceed' hall' hx hy
                hrequests' hreads'
  | aggregate name first last start =>
      exact inOrder_aggregate a functions t name first last start
  | hole text => exact h.elim

-- ================================================================= result

/-- The requests of a tree stand for its leaves that mention cells, from left to
right. If none of its operations fails, a tree with nothing missing has made all
of them and has the value that plain recursion gives; it depends on all cells
that the answers named, each where it was named first. Otherwise its error is
that of the first operation that fails, each operation coming after those of its
parts, and the requests that were made are those of the operations up to this
one: the first requests of the tree. -/
theorem evaluate_in_order (a : Answers) (functions : Registry)
    (h : e.Complete) :
    e.requests.flatMap Request.names = e.leaves.filterMap mention? ∧
    ((AllSucceed a functions (e.operations []) ∧
      ∃ v, e.value? a functions [] = some v ∧
        e.evaluate a.source functions =
          (.ok (.ok ⟨v, ((e.operations []).flatMap (·.reads a)).eraseDups⟩),
            e.requests)) ∨
      ∃ before o err, FirstFailure a functions (e.operations []) before o err ∧
        e.evaluate a.source functions =
          (.ok (.error err), asking functions (before ++ [o])) ∧
        asking functions (before ++ [o]) <+: e.requests) := by
  refine ⟨names_requests e, ?_⟩
  have hrun := run_inOrder a functions .empty h
  unfold evaluate
  generalize e.run a.source functions .empty = ran at hrun ⊢
  obtain ⟨outcome, t⟩ := ran
  cases hrun with
  | @completed v hsucceed hvalue _ hresult hrequests hreads =>
      cases hresult
      refine Or.inl ⟨hsucceed, v, hvalue, ?_⟩
      dsimp only [Except.map]
      rw [hrequests, hreads, Trace.empty, List.nil_append, List.nil_append]
  | @stopped before o err hfirst hsome hresult hrequests =>
      cases hresult
      refine Or.inr ⟨before, o, err, hfirst, ?_, hsome⟩
      dsimp only [Except.map]
      rw [hrequests, Trace.empty, List.nil_append]

/-- The answers for a cell change from one request to the next, and no range has
any. -/
def drifting : Answers where
  cell asked _ := .ok ⟨asked.length.toFloat, asked.length⟩
  range _ _ _ := .error ⟨.undefinedCell, none⟩

/-- The tree of `(A0+1/(A0-B0))*MAX(A0:B0)`. -/
def threeCells : Expr :=
  .binary .mul
    (.binary .add (.ref ⟨"A0", 1⟩)
      (.binary .div (.number 1 "1" 4) (.binary .sub (.ref ⟨"A0", 7⟩)
        (.ref ⟨"B0", 10⟩) 7) 4) 1)
    (.aggregate "MAX" ⟨"A0", 19⟩ ⟨"B0", 22⟩ 15) 1

/-- The function is not known, so no range is asked for. -/
theorem evaluate_in_order_three_cells :
    threeCells.requests.flatMap Request.names =
      threeCells.leaves.filterMap mention? ∧
    ((AllSucceed drifting .builtin (threeCells.operations []) ∧
      ∃ v, threeCells.value? drifting .builtin [] = some v ∧
        threeCells.evaluate drifting.source .builtin =
          (.ok (.ok ⟨v, ((threeCells.operations []).flatMap
            (·.reads drifting)).eraseDups⟩), threeCells.requests)) ∨
      ∃ before o err,
        FirstFailure drifting .builtin (threeCells.operations []) before o
          err ∧
        threeCells.evaluate drifting.source .builtin =
          (.ok (.error err), asking .builtin (before ++ [o])) ∧
        asking .builtin (before ++ [o]) <+: threeCells.requests) :=
  evaluate_in_order drifting .builtin
    ⟨nofun, ⟨nofun, trivial, nofun, trivial, nofun, trivial, trivial⟩, trivial⟩

example : (threeCells.evaluate drifting.source .builtin).2 =
    [.cell "A0", .cell "A0", .cell "B0"] := by decide +kernel

end Expr

end Worksheet
