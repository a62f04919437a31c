import TableLexer.Text.Basic

/-!
# Dump formats

The forms in which a token list can be written, with the names they have in options and settings.
-/

namespace TableLexer

/-- A form of token lists. -/
inductive DumpFormat where
  /-- All tokens on one line. -/
  | row
  /-- One token a line, with its place. -/
  | lines
  /-- One JSON array. -/
  | json
  deriving DecidableEq, Repr

namespace DumpFormat

/-- The name of a format. -/
def name : DumpFormat → Text
  | row => "repr".toList
  | lines => "lines".toList
  | json => "json".toList

/-- The format of a name; the case of letters matters. -/
def ofName? (text : Text) : Option DumpFormat :=
  [row, lines, json].find? fun format => format.name == text

end DumpFormat

end TableLexer
