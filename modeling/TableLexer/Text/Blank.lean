import TableLexer.Text.CharRange

/-!
# White space

The characters that separate tokens without belonging to any: the property White_Space of
Unicode.
-/

namespace TableLexer.Text

/-- Ranges of the property White_Space. -/
def blankRanges : List CharRange :=
  [(0x9, 0xD), (0x20, 0x20), (0x85, 0x85), (0xA0, 0xA0), (0x1680, 0x1680), (0x2000, 0x200A),
    (0x2028, 0x2029), (0x202F, 0x202F), (0x205F, 0x205F), (0x3000, 0x3000)]

/-- Whether the character is white space. -/
def isBlank (char : Char) : Bool :=
  CharRange.covers blankRanges char

end TableLexer.Text
