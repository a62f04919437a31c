import TableLexer.Diagnostic.Basic
import TableLexer.Diagnostic.Snippet

/-!
# Reports

The report of a diagnostic against its source: the heading, the place, the excerpt and the
advice, each on lines of its own. Place and excerpt are left out where there is none.
-/

namespace TableLexer.Diagnostic

/-- The line that names the place. -/
def locator (diagnostic : Diagnostic) : Text :=
  if diagnostic.span = Span.nowhere then []
  else "  --> ".toList ++ diagnostic.span.display ++ Text.newline

/-- The lines that show the source. -/
def excerpt (diagnostic : Diagnostic) (source : Text) : Text :=
  match Snippet.ofSpan? source diagnostic.span with
  | some snippet => snippet.display ++ Text.newline
  | none => []

/-- The line of one piece of advice. -/
def adviceLine (advice : Text) : Text :=
  "  = help: ".toList ++ advice ++ Text.newline

/-- The whole report. -/
def report (diagnostic : Diagnostic) (source : Text) : Text :=
  diagnostic.heading ++ Text.newline ++ diagnostic.locator ++ diagnostic.excerpt source ++
    diagnostic.advice.flatMap adviceLine

end TableLexer.Diagnostic
