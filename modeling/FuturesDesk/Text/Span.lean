/-!
# Spans of code points

A class of characters as the list of its spans, first and last code point of
each, in rising order.
-/

namespace FuturesDesk

/-- Spans of code points, both ends included. -/
abbrev Spans := List (Nat × Nat)

def Spans.has (spans : Spans) (c : Char) : Bool :=
  spans.any fun (first, last) => first ≤ c.toNat && c.toNat ≤ last

theorem Spans.has_iff {spans : Spans} {c : Char} :
    spans.has c = true ↔ ∃ span ∈ spans, span.1 ≤ c.toNat ∧ c.toNat ≤ span.2 := by
  simp [Spans.has, List.any_eq_true]

end FuturesDesk
