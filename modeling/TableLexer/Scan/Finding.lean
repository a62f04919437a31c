import TableLexer.Diagnostic.Basic
import TableLexer.Text.Quoted
import TableLexer.Token.Basic

/-!
# Findings

The diagnostic of a malformed token. A cause that the input's end explains needs no quotation;
for the others the message shows the lexeme.
-/

namespace TableLexer

/-- What a report says about a lexeme that is malformed for this cause. -/
def Malformation.describe (cause : Malformation) (lexeme : Text) : Text :=
  if cause.isUnterminated then cause.message
  else cause.message ++ " `".toList ++ Text.quote lexeme ++ "`".toList

/-- The diagnostic of a lexeme that is malformed for this cause. -/
def Malformation.diagnostic (cause : Malformation) (lexeme : Text) (span : Span) : Diagnostic :=
  ((Diagnostic.error (cause.describe lexeme) span).withCode cause.code).withAdvice cause.advice

/-- The diagnostic of a token, if it is malformed. -/
def Token.diagnostic? (token : Token) : Option Diagnostic :=
  token.cause?.map fun cause => cause.diagnostic token.lexeme token.span

end TableLexer
