/-!
# Ranges of characters

A character property is a table of ranges of code points, both ends included.
-/

namespace TableLexer.Text

/-- A range of code points, as its first and its last one. -/
abbrev CharRange := Nat × Nat

/-- Whether one of the ranges holds the character. -/
def CharRange.covers (ranges : List CharRange) (char : Char) : Bool :=
  ranges.any fun range => range.1 ≤ char.toNat && char.toNat ≤ range.2

end TableLexer.Text
