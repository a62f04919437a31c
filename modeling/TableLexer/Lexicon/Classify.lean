import TableLexer.Fault
import TableLexer.Lexicon.Basic

/-!
# Classification

The kind of a finished lexeme. Reserved words are told from other identifiers only here, when the
whole word is known.
-/

namespace TableLexer

namespace Lexicon

/-- The kind of a punctuation lexeme: the one of its character, if it is one character. -/
def punctuationKind (lexicon : Lexicon) : Text → TokenKind
  | [char] => (lexicon.punctuation? char).getD (.malformed .unexpectedCharacter)
  | _ => .malformed .unexpectedCharacter

/-- The kind of a lexeme of a category, whatever the lexeme. -/
def kindOf (lexicon : Lexicon) (lexeme : Text) : Category → TokenKind
  | .identifier => if lexicon.isKeyword lexeme then .keyword else .identifier
  | .number => .number
  | .string => .string
  | .comment => .comment
  | .punctuation => lexicon.punctuationKind lexeme
  | .operator => if lexicon.isOperator lexeme then .operator else .malformed .unknownOperator
  | .unrecognized => .malformed .unexpectedCharacter
  | .unterminatedString => .malformed .unterminatedString
  | .unterminatedComment => .malformed .unterminatedComment

/-- The kind of a lexeme of a category. Only a string literal, whose lexeme lacks the quotes, may
have an empty one. -/
def classify (lexicon : Lexicon) (lexeme : Text) (category : Category) : Except Fault TokenKind :=
  if lexeme.isEmpty && category != .string then .error (.emptyLexeme category)
  else .ok (lexicon.kindOf lexeme category)

end Lexicon

end TableLexer
