/-
Spans of code points.

A class of characters is written down in this library as the list of the
spans it is made of, in ascending order. `inSpans` reads such a list;
the modules beside this one hold the lists.
-/

namespace Worksheet.Text

/-- The code points from `first` to `last`, both ends included. -/
structure Span where
  first : Nat
  last : Nat

/-- The character lies between the two ends. -/
def Span.covers (s : Span) (c : Char) : Bool :=
  s.first ≤ c.toNat && c.toNat ≤ s.last

/-- One of the spans covers the character. -/
def inSpans (spans : List Span) (c : Char) : Bool :=
  spans.any (·.covers c)

theorem inSpans_iff {spans : List Span} {c : Char} :
    inSpans spans c = true ↔
      ∃ s ∈ spans, s.first ≤ c.toNat ∧ c.toNat ≤ s.last := by
  simp [inSpans, Span.covers]

end Worksheet.Text
