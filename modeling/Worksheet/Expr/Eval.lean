/-
The value of an expression.

Parts are evaluated from left to right and the first failure is the
result: nothing after it is asked for. Along the way the evaluation keeps
a trace, namely the requests it made and the cells it read; the requests
remain known when the evaluation fails.
-/
import Worksheet.Aggregate.Registry
import Worksheet.Source

namespace Worksheet

/-- What an evaluation has done so far: the requests it made and the cells
whose values it used, both in order. -/
structure Trace where
  requests : List Request
  reads : List Int
deriving Repr

/-- Nothing is done. -/
def Trace.empty : Trace := ⟨[], []⟩

/-- One more request is made. -/
def Trace.ask (t : Trace) (r : Request) : Trace :=
  { t with requests := t.requests ++ [r] }

/-- Some more cells are used. -/
def Trace.use (t : Trace) (cells : List Int) : Trace :=
  { t with reads := t.reads ++ cells }

/-- A value, or the error that stands for it, unless the tree makes no sense at
all. -/
abbrev Outcome := Except Fault (Except EvalError Float)

/-- The result of an operation on two values. A division by zero is blamed
on the divisor, the part `right` of the expression. -/
def Operator.apply (op : Operator) (x y : Float) (right : Expr) : Outcome :=
  match op with
  | .add => .ok (.ok (x + y))
  | .sub => .ok (.ok (x - y))
  | .mul => .ok (.ok (x * y))
  | .div =>
    if y == 0 then .ok (.error ⟨.divideByZero, right, none, ""⟩)
    else .ok (.ok (x / y))
  | .other sign => .error (.unknownOperator sign)

namespace Expr

/-- Evaluates a tree, going on from the trace `t`. -/
def run (source : Source) (functions : Registry) :
    Expr → Trace → Outcome × Trace
  | number value _ _, t => (.ok (.ok value), t)
  | ref cell, t =>
    let asked := t.ask (.cell cell.name)
    match source.cell t.requests cell.name with
    | .ok (.ok reading) => (.ok (.ok reading.value), asked.use [reading.index])
    | .ok (.error e) => (.ok (.error ⟨e.kind, ref cell, e.cell, ""⟩), asked)
    | .error f => (.error f, asked)
  | binary op left right _, t =>
    match left.run source functions t with
    | (.ok (.ok x), t) =>
      match right.run source functions t with
      | (.ok (.ok y), t) => (op.apply x y right, t)
      | failed => failed
    | failed => failed
  | aggregate name first last start, t =>
    let node := aggregate name first last start
    match functions.get? name with
    | none => (.ok (.error ⟨.unknownFunction, node, none, name⟩), t)
    | some f =>
      let asked := t.ask (.range first.name last.name)
      match source.range t.requests first.name last.name with
      | .ok (.ok reading) =>
        match f reading.values with
        | .ok value => (.ok (.ok value), asked.use reading.indices)
        | .error e => (.ok (.error ⟨.functionError, node, none, e.text⟩), asked)
      | .ok (.error e) => (.ok (.error ⟨e.kind, node, e.cell, ""⟩), asked)
      | .error f => (.error f, asked)
  | hole text, t => (.error (.holeEvaluated text), t)

end Expr

/-- The value of an expression and the cells that were read for it, each
once, in the order of their first use. -/
structure Evaluation where
  value : Float
  dependencies : List Int
deriving Repr

/-- Evaluates an expression, and tells the requests that were made. -/
def Expr.evaluate (e : Expr) (source : Source) (functions : Registry) :
    Except Fault (Except EvalError Evaluation) × List Request :=
  let (outcome, trace) := e.run source functions .empty
  (outcome.map fun result => result.map fun value =>
    ⟨value, trace.reads.eraseDups⟩, trace.requests)

end Worksheet
