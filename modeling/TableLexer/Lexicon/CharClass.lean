import TableLexer.Lexicon.Basic
import TableLexer.Text.Blank

/-!
# Character classes

What a character does where no token is in progress. The classes are tried in a fixed order, so
every character has exactly one; the tables of the lexicon decide the last of them.
-/

namespace TableLexer

/-- The role of a character at the start of a token. -/
inductive CharClass where
  /-- Separates tokens. -/
  | blank
  /-- Starts a number. -/
  | digit
  /-- Starts an identifier or a keyword. -/
  | wordStart
  /-- Starts a string literal. -/
  | quote
  /-- Starts a division or a comment. -/
  | slash
  /-- Is a token on its own. -/
  | punctuation
  /-- Starts some operator. -/
  | operatorStart
  /-- Starts nothing. -/
  | other
  deriving DecidableEq, Repr

/-- Whether an identifier may start with the character: an ASCII letter or an underscore. -/
def isWordStart (char : Char) : Bool := char.isAlpha || char == '_'

/-- Whether an identifier may go on with the character: an ASCII letter or digit or an
underscore. -/
def isWordPart (char : Char) : Bool := char.isAlphanum || char == '_'

/-- The class of a character. -/
def Lexicon.charClass (lexicon : Lexicon) (char : Char) : CharClass :=
  if Text.isBlank char then .blank
  else if char.isDigit then .digit
  else if isWordStart char then .wordStart
  else if char = '"' then .quote
  else if char = '/' then .slash
  else if (lexicon.punctuation? char).isSome then .punctuation
  else if lexicon.beginsOperator [char] then .operatorStart
  else .other

end TableLexer
