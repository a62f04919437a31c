import TableLexer.Token.Kind

/-!
# Fixed spellings

The operators and the punctuation characters, which are the same for every lexicon.
-/

namespace TableLexer.Spelling

/-- The spellings of the operators. -/
def operators : List Text :=
  ["+".toList, "-".toList, "*".toList, "/".toList, "%".toList, "=".toList, "==".toList,
    "!=".toList, "<".toList, "<=".toList, ">".toList, ">=".toList, "!".toList, "&&".toList,
    "||".toList, ".".toList, "->".toList]

/-- The punctuation characters, with the kind of each. -/
def punctuation : List (Char × TokenKind) :=
  [('(', .leftParen), (')', .rightParen), ('\x7b', .leftBrace), ('\x7d', .rightBrace),
    ('[', .leftBracket), (']', .rightBracket), (';', .semicolon), (',', .comma)]

end TableLexer.Spelling
