/-
The functions that formulas can call, by name.

Names are words in any script and letter case; a function is kept under
the upper case of its name and found under every spelling that has the
same upper case. A later registration replaces an earlier one.
-/
import Worksheet.Aggregate.Sum
import Worksheet.Fault
import Worksheet.Text.Letter
import Worksheet.Text.Upper

namespace Worksheet

open Text (upper isWord)

/-- Named aggregates. Each name is in upper case and has one entry. -/
structure Registry where
  entries : List (String × Aggregate)

namespace Registry

/-- The registry that knows the sum and nothing else. -/
def builtin : Registry := ⟨[("SUM", sumOf)]⟩

/-- The names, the latest first. -/
def names (r : Registry) : List String :=
  r.entries.map (·.1)

/-- The names in alphabetical order, by code points. -/
def sortedNames (r : Registry) : List String :=
  r.names.mergeSort fun a b => a ≤ b

/-- The function of this name. -/
def get? (r : Registry) (name : String) : Option Aggregate :=
  r.entries.lookup (upper name)

/-- The name is known. -/
def has (r : Registry) (name : String) : Bool :=
  (r.get? name).isSome

/-- The registry with a function under a name, in place of the one that was
there. -/
def insert (r : Registry) (name : String) (f : Aggregate) : Registry :=
  ⟨(upper name, f) :: r.entries.filter (·.1 != upper name)⟩

/-- Registers a function, if its name is a word. -/
def register (r : Registry) (name : String) (f : Aggregate) :
    Except Fault Registry :=
  if isWord name then .ok (r.insert name f) else .error (.notAWord name)

end Registry

end Worksheet
