import TableLexer.Command.Outlet
import TableLexer.Settings.Basic

/-!
# The keywords command

Lists the reserved words, one a line, in the order of their bytes, whatever order the words of a
set are met in.
-/

namespace TableLexer.Keywords

/-- The lines of the listing of a lexicon. -/
def listing (order : Enumeration) (lexicon : Lexicon) : List Text :=
  (lexicon.keywords order).map fun word => word ++ Text.newline

/-- Write the listing: the number of words or the failure, and the outlet behind it. -/
def run (order : Enumeration) (settings : Settings) (out : Outlet) : Except Failure Nat × Outlet :=
  match settings.lexicon with
  | .error failure => (.error failure, out)
  | .ok lexicon =>
    let (out, complete) := out.writeEach (listing order lexicon)
    (if complete then .ok (lexicon.keywords order).length else .error .unwritable, out)

end TableLexer.Keywords
