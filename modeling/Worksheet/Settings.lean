/-
Settings: how the contents of cells are read.
-/
import Worksheet.Aggregate.Registry

namespace Worksheet

/-- What makes a content a formula, how long a formula may be, and which
functions it can call; without a registry it is the built-in ones. -/
structure Settings where
  marker : String
  maxLength : Option Int
  functions : Option Registry

namespace Settings

/-- Formulas begin with `=`, have any length and call the built-in functions. -/
def standard : Settings := ⟨"=", none, none⟩

/-- The functions that formulas can call. -/
def registry (s : Settings) : Registry :=
  s.functions.getD .builtin

/-- The formula in a content that begins with the marker: what comes after
it. -/
def formula? (s : Settings) (content : String) : Option String :=
  if s.marker.toList.isPrefixOf content.toList then
    some (String.ofList (content.toList.drop s.marker.toList.length))
  else none

end Settings

end Worksheet
