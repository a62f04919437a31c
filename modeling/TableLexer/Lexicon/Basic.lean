import TableLexer.Lexicon.Spelling
import TableLexer.Lexicon.WordSet

/-!
# Lexicons

A lexicon has the tables that a scan goes by: the reserved words, which are the standard ones and
whatever a user adds, the punctuation characters and the operators. A run of operator characters
may grow as long as some spelling begins with it.
-/

namespace TableLexer

/-- The tables of a scan. -/
structure Lexicon where
  /-- The reserved words. -/
  reserved : WordSet
  /-- The punctuation characters, with the kind of each. -/
  punctuation : List (Char × TokenKind)
  /-- The spellings of the operators. -/
  operators : List Text
  /-- Punctuation is the same for every lexicon. -/
  punctuation_eq : punctuation = Spelling.punctuation
  /-- Operators are the same for every lexicon. -/
  operators_eq : operators = Spelling.operators
  deriving DecidableEq, Repr

namespace Lexicon

/-- The words that every lexicon reserves. -/
def standardKeywords : List Text :=
  ["if".toList, "else".toList, "while".toList, "for".toList, "do".toList, "return".toList,
    "break".toList, "continue".toList, "int".toList, "float".toList, "char".toList,
    "void".toList]

/-- The lexicon of the standard words alone. -/
def standard : Lexicon where
  reserved := WordSet.empty.insertAll standardKeywords
  punctuation := Spelling.punctuation
  operators := Spelling.operators
  punctuation_eq := rfl
  operators_eq := rfl

/-- The lexicon with further reserved words. -/
def withKeywords (lexicon : Lexicon) (words : List Text) : Lexicon :=
  { lexicon with reserved := lexicon.reserved.insertAll words }

/-- Further words leave the punctuation as it is. -/
@[simp] theorem withKeywords_punctuation (lexicon : Lexicon) (words : List Text) :
    (lexicon.withKeywords words).punctuation = lexicon.punctuation := rfl

/-- Further words leave the operators as they are. -/
@[simp] theorem withKeywords_operators (lexicon : Lexicon) (words : List Text) :
    (lexicon.withKeywords words).operators = lexicon.operators := rfl

/-- Whether the word is reserved. -/
def isKeyword (lexicon : Lexicon) (word : Text) : Bool := lexicon.reserved.contains word

/-- All reserved words in the order of their bytes, whatever order they are met in. -/
def keywords (lexicon : Lexicon) (order : Enumeration) : List Text :=
  (order.listing lexicon.reserved).mergeSort Text.precedes

/-- Whether the text is an operator. -/
def isOperator (lexicon : Lexicon) (text : Text) : Bool := lexicon.operators.contains text

/-- Whether some operator begins with the text. -/
def beginsOperator (lexicon : Lexicon) (text : Text) : Bool :=
  lexicon.operators.any text.isPrefixOf

/-- Whether some operator begins with the text and, right behind it, the character. -/
def extendsOperator (lexicon : Lexicon) (text : Text) (char : Char) : Bool :=
  lexicon.beginsOperator (text ++ [char])

/-- The kind of a punctuation character. -/
def punctuation? (lexicon : Lexicon) (char : Char) : Option TokenKind :=
  lexicon.punctuation.lookup char

end Lexicon

end TableLexer
