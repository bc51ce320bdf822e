import Lexeme.Text.Utf8

/-!
# Spans

Half-open ranges of byte offsets into a source text, and values that carry one.
-/

set_option autoImplicit false
set_option relaxedAutoImplicit false

namespace Lexeme

/-- The bytes from `start` up to but not including `stop`. -/
structure Span where
  start : Nat
  stop : Nat
  deriving Repr, DecidableEq, Inhabited

namespace Span

/-- The empty span at the start of a text. -/
def zero : Span := ⟨0, 0⟩

/-- Number of bytes in the span. -/
def length (span : Span) : Nat :=
  span.stop - span.start

/-- Whether the span holds no byte. -/
def isEmpty (span : Span) : Bool :=
  span.start == span.stop

/-- The span as its two offsets with dots between. -/
def render (span : Span) : String :=
  toString span.start ++ ".." ++ toString span.stop

/-- The text a span covers, if both its ends lie between characters of the source. -/
def slice? (span : Span) (source : String) : Option String :=
  (Text.slice? span.start span.stop source.toList).map String.ofList

/-- Spans are ordered by where they start, then by where they stop. -/
def le (a b : Span) : Bool :=
  a.start < b.start || (a.start == b.start && a.stop ≤ b.stop)

end Span

/-- A value with the place in the source that it came from. -/
structure Spanned (α : Type) where
  value : α
  span : Span
  deriving Repr, DecidableEq

end Lexeme
