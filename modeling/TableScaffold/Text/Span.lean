/-!
# Spans of code points

A class of characters is a list of spans. Letters often alternate between upper and lower case, so a
span has a stride.
-/

namespace TableScaffold.Text

/-- The code points `first`, `first + stride`, … up to `last`. -/
structure Span where
  first : Nat
  last : Nat
  stride : Nat
  deriving Repr, DecidableEq

/-- Whether a code point lies on the span. -/
def Span.holds (s : Span) (n : Nat) : Bool :=
  s.first ≤ n && n ≤ s.last && (n - s.first) % s.stride == 0

theorem Span.first_le_of_holds {s : Span} {n : Nat} (h : s.holds n = true) : s.first ≤ n := by
  simp only [Span.holds, Bool.and_eq_true, decide_eq_true_eq] at h
  exact h.1.1

theorem Span.le_last_of_holds {s : Span} {n : Nat} (h : s.holds n = true) : n ≤ s.last := by
  simp only [Span.holds, Bool.and_eq_true, decide_eq_true_eq] at h
  exact h.1.2

/-- Whether a character lies on one of the spans. -/
def inSpans (spans : List Span) (c : Char) : Bool := spans.any (·.holds c.toNat)

theorem inSpans_eq_true_iff {spans : List Span} {c : Char} :
    inSpans spans c = true ↔ ∃ s ∈ spans, s.holds c.toNat = true := by
  simp [inSpans]

end TableScaffold.Text
