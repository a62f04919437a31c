import TableLexer.Text.Basic

/-!
# Spans

Where a token or a diagnostic sits in its source: a byte range, and the line and column of its
first character.
-/

namespace TableLexer

/-- A place in a source text. Lines and columns are counted from one, columns in characters. -/
structure Span where
  /-- Byte offset of the first byte. -/
  start : Nat
  /-- Byte offset behind the last byte. -/
  stop : Nat
  /-- Line of the first character. -/
  line : Nat
  /-- Column of the first character. -/
  column : Nat
  deriving DecidableEq, Repr

namespace Span

/-- The span of what has no place in any source. -/
def nowhere : Span := ⟨0, 0, 0, 0⟩

/-- Number of bytes covered; a reversed range covers none. -/
def length (span : Span) : Nat := span.stop - span.start

/-- Whether no byte is covered. -/
def isEmpty (span : Span) : Bool := span.stop ≤ span.start

/-- The place as messages name it, `line:column`. -/
def display (span : Span) : Text :=
  Text.decimal span.line ++ ":".toList ++ Text.decimal span.column

/-- The covered part of a source, if the range is one of its ranges. -/
def slice? (span : Span) (source : Text) : Option Text :=
  Text.sliceBytes? source span.start span.stop

end Span

end TableLexer
