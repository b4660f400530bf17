/-
The sum of a range, rounded once.

Adding floating-point numbers one after another loses the low digits of
small values. Here the running sum is kept as several numbers, the
partials, that together are exactly the sum so far: they ascend in size
and no two share a digit. Only the end result is rounded, to the nearest
number and at a tie to the even one, so the order of the values does not
show in it.

Infinities and values that are no number are summed apart.
-/
import Worksheet.Aggregate.Basic

namespace Worksheet

-- ============================================================== partials

/-- Two numbers as their rounded sum and the error of the rounding; the
sum of the two answers is exact. -/
def sumAndError (x y : Float) : Float × Float :=
  let (large, small) := if x.abs < y.abs then (y, x) else (x, y)
  let sum := large + small
  (sum, small - (sum - large))

/-- A number carried up through ascending partials: the errors left behind
on the way, those that are not zero, and the number that comes out on top. -/
def carry (x : Float) : List Float → List Float × Float
  | [] => ([], x)
  | y :: ys =>
    let (sum, error) := sumAndError x y
    let (errors, top) := carry sum ys
    (if error == 0 then errors else error :: errors, top)

/-- The number nearest to `sum + error + …`, where the dots have the sign of
`next`. The sum is already nearest unless the error is exactly half a step
and what follows pulls the same way. -/
def settleTie (sum error next : Float) : Float :=
  if (error < 0 && next < 0) || (error > 0 && next > 0) then
    let step := error * 2
    let moved := sum + step
    if step == moved - sum then moved else sum
  else sum

/-- The partials added from the top down, until a rounding error appears. -/
def settle (sum : Float) : List Float → Float
  | [] => sum
  | y :: rest =>
    let next := sum + y
    let error := y - (next - sum)
    if error == 0 then settle next rest
    else match rest with
      | [] => next
      | z :: _ => settleTie next error z

-- =========================================================== running sum

/-- The sum so far: of the finite values as partials, of all other values,
and of the infinities among those. -/
structure RunningSum where
  partials : List Float
  special : Float
  infinite : Float
deriving Repr

/-- The sum of nothing. -/
def RunningSum.zero : RunningSum := ⟨[], 0, 0⟩

/-- The sum with one more value. A value that is not finite is set aside,
and the partials start afresh after it. -/
def RunningSum.add (s : RunningSum) (x : Float) :
    Except AggregateError RunningSum :=
  let (errors, top) := carry x s.partials
  if top == 0 then .ok { s with partials := errors }
  else if top.isFinite then .ok { s with partials := errors ++ [top] }
  else if x.isFinite then .error .sumOverflow
  else .ok ⟨[], s.special + x, if x.isInf then s.infinite + x else s.infinite⟩

/-- The number that the sum comes to. -/
def RunningSum.result (s : RunningSum) : Except AggregateError Float :=
  if s.special == 0 then
    match s.partials.reverse with
    | [] => .ok 0
    | top :: rest => .ok (settle top rest)
  else if s.infinite.isNaN then .error .opposingInfinities
  else .ok s.special

/-- The sum of at least one value. -/
def sumOf : Aggregate := fun values =>
  if values.isEmpty then .error .noValues
  else do (← values.foldlM RunningSum.add .zero).result

end Worksheet
