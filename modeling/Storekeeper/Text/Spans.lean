/-!
# Spans of code points

Character classes and case mappings are written as tables of spans.  `inSpans` says whether a code
point lies in a class; a `CaseSpan` moves every `step`-th code point between its ends by one and
the same distance.
-/

namespace Storekeeper.Text

/-- Whether a code point lies in one of the closed spans. -/
def inSpans (spans : List (Nat × Nat)) (code : Nat) : Bool :=
  spans.any fun span => span.1 ≤ code && code ≤ span.2

/-- The code points `first`, `first + step`, …, `last`, moved so that `first` becomes `image`. -/
structure CaseSpan where
  first : Nat
  last : Nat
  step : Nat
  image : Nat

namespace CaseSpan

/-- Whether the span moves the code point. -/
def holds (span : CaseSpan) (code : Nat) : Bool :=
  span.first ≤ code && code ≤ span.last && (code - span.first) % span.step == 0

/-- Where a code point of the span goes. -/
def move (span : CaseSpan) (code : Nat) : Nat :=
  code - span.first + span.image

end CaseSpan

end Storekeeper.Text
