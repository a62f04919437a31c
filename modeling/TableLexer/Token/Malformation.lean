import TableLexer.Diagnostic.Code

/-!
# Malformed tokens

The four ways in which a piece of a source fails to be a token, with their wording.
-/

namespace TableLexer

/-- Why a lexeme is malformed. -/
inductive Malformation where
  /-- A character that starts no token. -/
  | unexpectedCharacter
  /-- A string literal still open at the end of the input. -/
  | unterminatedString
  /-- A block comment still open at the end of the input. -/
  | unterminatedComment
  /-- A beginning of operators that is none itself. -/
  | unknownOperator
  deriving DecidableEq, Repr

namespace Malformation

/-- What is wrong. -/
def message : Malformation → Text
  | unexpectedCharacter => "unexpected character".toList
  | unterminatedString => "unterminated string literal".toList
  | unterminatedComment => "unterminated block comment".toList
  | unknownOperator => "unknown operator".toList

/-- The code it is reported under. -/
def code : Malformation → DiagnosticCode
  | unexpectedCharacter => .unexpectedCharacter
  | unterminatedString => .unterminatedString
  | unterminatedComment => .unterminatedComment
  | unknownOperator => .unknownOperator

/-- How to mend it. -/
def advice : Malformation → Text
  | unexpectedCharacter => "remove this character or place it inside a string".toList
  | unterminatedString => "add a closing `\"` to end the string".toList
  | unterminatedComment => "add a closing `*/` to end the comment".toList
  | unknownOperator => "this is only the start of an operator".toList

/-- Whether the input ended too early. -/
def isUnterminated : Malformation → Bool
  | unterminatedString | unterminatedComment => true
  | unexpectedCharacter | unknownOperator => false

end Malformation

end TableLexer
