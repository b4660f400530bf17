/-
Reading and evaluating on a stack of limited size.

Both go into a formula by calls inside each other. The reader makes three
for every parenthesis that is open, one each for a sum, a product and a
factor, and the evaluation makes one for every part of the tree that it is
in. A stack has room for so many calls, and what would go deeper is not
carried out at all. Only these calls are counted: what is called around
them and beside them is part of the size that the stack is given here.
-/
import Worksheet.Expr.Eval
import Worksheet.Expr.OfText

namespace Worksheet

namespace Expr

-- ================================================================ reading

/-- The most parentheses that are open at once from a state on, as far as
the tokens are read. -/
def State.deepest (s : State) : List Token → Nat
  | [] => s.outer.length
  | t :: rest =>
    if t.kind = .eof then s.outer.length
    else match s.step? t with
      | some next => max s.outer.length (next.deepest rest)
      | none => s.outer.length

/-- The calls inside each other that the reading of some tokens takes. -/
def readingCalls (tokens : List Token) : Nat :=
  3 * (State.start.deepest tokens + 1)

/-- The expression that a token sequence writes, if the stack has room for
the reading. -/
def ofTokensWithin (stack : Nat) (tokens : List Token) :
    Except Fault (Except ParseError Expr) :=
  if readingCalls tokens ≤ stack then .ok (ofTokens tokens)
  else .error .tooDeep

/-- The expression that a formula text writes, as far as the stack has room
for the reading. The text is cut into tokens without calls inside each
other. -/
def ofTextWithin (stack : Nat) (keywords : List String) (limit : Option Int)
    (text : String) : Except Fault (Except FormulaError Expr) := do
  match ← tokenize keywords limit text with
  | .error e => return .error (.lex e)
  | .ok tokens => return (← ofTokensWithin stack tokens).mapError .parse

-- ============================================================= evaluation

/-- Evaluates a tree as `run` does, with room for so many calls inside each
other. A part that no call is left for is not looked at. -/
def runWithin (source : Source) (functions : Registry) :
    Nat → Expr → Trace → Outcome × Trace
  | 0, _, t => (.error .tooDeep, t)
  | room + 1, binary op left right _, t =>
    match left.runWithin source functions room t with
    | (.ok (.ok x), t) =>
      match right.runWithin source functions room t with
      | (.ok (.ok y), t) => (op.apply x y right, t)
      | failed => failed
    | failed => failed
  | _ + 1, e, t => e.run source functions t

/-- Evaluates an expression as far as the stack has room for it. -/
def evaluateWithin (stack : Nat) (e : Expr) (source : Source)
    (functions : Registry) : Except Fault (Except EvalError Evaluation) :=
  let (outcome, trace) := e.runWithin source functions stack .empty
  outcome.map fun result => result.map fun value =>
    ⟨value, trace.reads.eraseDups⟩

end Expr

end Worksheet
