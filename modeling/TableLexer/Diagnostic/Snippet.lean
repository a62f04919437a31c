import TableLexer.Span

/-!
# Source excerpts

An excerpt shows one line of the source and underlines a range of its columns. The excerpt of a
span underlines what the span covers of its first line.
-/

namespace TableLexer

/-- A line of a source with a range of columns to underline. -/
structure Snippet where
  /-- The line without its end. -/
  line : Text
  /-- The number of the line, counted from one. -/
  lineNumber : Nat
  /-- The first underlined column, counted from one. -/
  startColumn : Nat
  /-- The column behind the last underlined one. -/
  endColumn : Nat
  deriving DecidableEq, Repr

namespace Snippet

/-- The excerpt of a span; none if the span does not point into the source. -/
def ofSpan? (source : Text) (span : Span) : Option Snippet :=
  if span.line = 0 then none
  else do
    let line ← (Text.lines source)[span.line - 1]?
    let covered ← span.slice? source
    let width := (covered.takeWhile (· != '\n')).length
    return ⟨line, span.line, span.column, span.column + width⟩

/-- Width of the column of line numbers: three digits, or as many as the number has. -/
def gutterWidth (snippet : Snippet) : Nat :=
  max 3 (Text.decimal snippet.lineNumber).length

/-- Number of blanks before the underline. -/
def underlineOffset (snippet : Snippet) : Nat := snippet.startColumn - 1

/-- Number of underlined columns; an empty range is shown as one. -/
def underlineWidth (snippet : Snippet) : Nat := max 1 (snippet.endColumn - snippet.startColumn)

/-- The row that shows the source line. -/
def sourceRow (snippet : Snippet) : Text :=
  (Text.decimal snippet.lineNumber).leftpad snippet.gutterWidth ' ' ++ " | ".toList ++ snippet.line

/-- The row that underlines the range. -/
def underlineRow (snippet : Snippet) : Text :=
  List.replicate snippet.gutterWidth ' ' ++ " | ".toList ++
    List.replicate snippet.underlineOffset ' ' ++ List.replicate snippet.underlineWidth '^'

/-- Both rows of the excerpt. -/
def display (snippet : Snippet) : Text :=
  snippet.sourceRow ++ Text.newline ++ snippet.underlineRow

/-- The greatest number of characters that a row may repeat. -/
def repeatLimit : Nat := UInt64.size / 2 - 1

/-- Both rows of the excerpt, unless a row would repeat a character more often than a row can. -/
def display? (snippet : Snippet) : Option Text :=
  if snippet.underlineOffset ≤ repeatLimit ∧ snippet.underlineWidth ≤ repeatLimit then
    some snippet.display
  else none

end Snippet

end TableLexer
