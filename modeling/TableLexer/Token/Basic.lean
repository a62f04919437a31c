import TableLexer.Token.Kind
import TableLexer.Span

/-!
# Tokens

A token is a classified lexeme with its place. The span of a string literal holds its quotes,
its lexeme does not.
-/

namespace TableLexer

/-- A classified lexeme. -/
structure Token where
  /-- What it is. -/
  kind : TokenKind
  /-- Its text; for a closed string literal the text between the quotes. -/
  lexeme : Text
  /-- Where it is, delimiters included. -/
  span : Span
  deriving DecidableEq, Repr

namespace Token

/-- The form `<KIND, lexeme>`. -/
def display (token : Token) : Text :=
  "<".toList ++ token.kind.name ++ ", ".toList ++ token.lexeme ++ ">".toList

/-- What is wrong with it, if it is malformed. -/
def cause? (token : Token) : Option Malformation := token.kind.cause?

/-- Whether it is malformed. -/
def isMalformed (token : Token) : Bool := token.kind.isMalformed

end Token

end TableLexer
