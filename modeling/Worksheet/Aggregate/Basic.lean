/-
Aggregates: functions of all values of a range.

An aggregate gets the values row by row and answers one number, or says
why there is none. It answers the same whenever it is asked the same.
-/

namespace Worksheet

/-- Why an aggregate has no answer. -/
inductive AggregateError where
  /-- A sum of nothing. -/
  | noValues
  /-- A partial sum of finite values left the range of numbers. -/
  | sumOverflow
  /-- The values hold infinities of both signs. -/
  | opposingInfinities
  /-- A function that was registered failed, in a way and with a text of its
  own. -/
  | custom (kind text : String)
deriving DecidableEq, Repr

/-- The text of the error. -/
def AggregateError.text : AggregateError → String
  | .noValues => "SUM requires at least one value"
  | .sumOverflow => "intermediate overflow in fsum"
  | .opposingInfinities => "-inf + inf in fsum"
  | .custom _ text => text

/-- A function of the values of a range. -/
abbrev Aggregate := List Float → Except AggregateError Float

end Worksheet
