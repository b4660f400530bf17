/-
From formula text to expressions: tokens first, then the grammar.
-/
import Worksheet.FormulaError
import Worksheet.Token.OfText

namespace Worksheet

/-- The expression that a formula text writes, without the marker that
makes it a formula. The first thing wrong with it is the error. -/
def Expr.ofText (keywords : List String) (limit : Option Int) (text : String) :
    Except Fault (Except FormulaError Expr) := do
  match ← tokenize keywords limit text with
  | .error e => .ok (.error (.lex e))
  | .ok tokens => .ok ((Expr.ofTokens tokens).mapError .parse)

end Worksheet
