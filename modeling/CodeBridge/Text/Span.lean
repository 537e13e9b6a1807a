/-! # Spans of text

A span is a pair of offsets in one document, read as the half-open interval from `start` to `stop`.
Spans arrive from outside, so nothing forces `start ≤ stop`; an inverted span contains no offset.
-/

namespace CodeBridge

/-- The offsets from `start` up to, but not including, `stop`. -/
structure Span where
  start : Nat
  stop : Nat
  deriving DecidableEq, Repr, Inhabited

namespace Span

/-- Whether an offset lies in the span. -/
def contains (span : Span) (offset : Nat) : Bool :=
  span.start ≤ offset && offset < span.stop

/-- Number of offsets in a span that is not inverted. -/
def length (span : Span) : Nat :=
  span.stop - span.start

/-- Whether the two ends meet. -/
def isEmpty (span : Span) : Bool :=
  span.start == span.stop

end Span

end CodeBridge
