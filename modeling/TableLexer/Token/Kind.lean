import TableLexer.Token.Malformation

/-!
# Kinds of tokens

A category is the family that the scanner assigns to a lexeme; a kind is what a lexeme of that
family turns out to be. Each kind belongs to one category.
-/

namespace TableLexer

/-- The family of a scanned lexeme. -/
inductive Category where
  /-- Letters, digits and underscores; perhaps a keyword. -/
  | identifier
  /-- Digits, perhaps with a fraction. -/
  | number
  /-- A closed string literal. -/
  | string
  /-- A line comment or a closed block comment. -/
  | comment
  /-- One punctuation character. -/
  | punctuation
  /-- A longest run that begins an operator. -/
  | operator
  /-- A character that starts nothing. -/
  | unrecognized
  /-- A string literal cut off by the end of the input. -/
  | unterminatedString
  /-- A block comment cut off by the end of the input. -/
  | unterminatedComment
  deriving DecidableEq, Repr

/-- The name of a category in messages. -/
def Category.name : Category → Text
  | .identifier => "Identifier".toList
  | .number => "Number".toList
  | .string => "String".toList
  | .comment => "Comment".toList
  | .punctuation => "Punctuation".toList
  | .operator => "Operator".toList
  | .unrecognized => "Unrecognized".toList
  | .unterminatedString => "UnterminatedString".toList
  | .unterminatedComment => "UnterminatedComment".toList

/-- What a token is. -/
inductive TokenKind where
  /-- The character `(`. -/
  | leftParen
  /-- The character `)`. -/
  | rightParen
  /-- The opening curly brace. -/
  | leftBrace
  /-- The closing curly brace. -/
  | rightBrace
  /-- The character `[`. -/
  | leftBracket
  /-- The character `]`. -/
  | rightBracket
  /-- The character `;`. -/
  | semicolon
  /-- The character `,`. -/
  | comma
  /-- A spelling of the operator table. -/
  | operator
  /-- A reserved word. -/
  | keyword
  /-- A name that is not reserved. -/
  | identifier
  /-- A decimal number, perhaps with a fraction. -/
  | number
  /-- A string literal. -/
  | string
  /-- A line or block comment. -/
  | comment
  /-- Malformed input. -/
  | malformed (cause : Malformation)
  deriving DecidableEq, Repr

namespace TokenKind

/-- The name of a kind in dumps. -/
def name : TokenKind → Text
  | leftParen => "LPAR".toList
  | rightParen => "RPAR".toList
  | leftBrace => "L-CURLY-BRACE".toList
  | rightBrace => "R-CURLY-BRACE".toList
  | leftBracket => "L-BRACKET".toList
  | rightBracket => "R-BRACKET".toList
  | semicolon => "SEMICOLON".toList
  | comma => "COMMA".toList
  | operator => "OP".toList
  | keyword => "KEYWORD".toList
  | identifier => "ID".toList
  | number => "NUMBER".toList
  | string => "STRING".toList
  | comment => "COMMENT".toList
  | malformed _ => "ERROR".toList

/-- The family that a lexeme of this kind is classified under. -/
def category : TokenKind → Category
  | leftParen | rightParen | leftBrace | rightBrace | leftBracket | rightBracket | semicolon
  | comma => .punctuation
  | operator | malformed .unknownOperator => .operator
  | keyword | identifier => .identifier
  | number => .number
  | string => .string
  | comment => .comment
  | malformed .unexpectedCharacter => .unrecognized
  | malformed .unterminatedString => .unterminatedString
  | malformed .unterminatedComment => .unterminatedComment

/-- Whether the kind is that of one punctuation character. -/
def isPunctuation : TokenKind → Bool
  | leftParen | rightParen | leftBrace | rightBrace | leftBracket | rightBracket | semicolon
  | comma => true
  | _ => false

/-- What is wrong with a malformed token. -/
def cause? : TokenKind → Option Malformation
  | malformed cause => some cause
  | _ => none

/-- Whether the token is malformed. -/
def isMalformed (kind : TokenKind) : Bool := kind.cause?.isSome

end TokenKind

end TableLexer
