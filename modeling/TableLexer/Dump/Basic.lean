import TableLexer.Dump.Format
import TableLexer.Json.Basic
import TableLexer.Token.Basic

/-!
# Dumps

A token list in each of the formats. A dump consists of a body and an ending, which is the last
line break where the format has one of its own: a JSON array is complete without it.
-/

namespace TableLexer

/-- A token with all that a dump can tell of it. -/
def Token.record (token : Token) : Json :=
  let members : List (Text × Json) :=
    [("kind".toList, .text token.kind.name), ("lexeme".toList, .text token.lexeme),
      ("line".toList, .number token.span.line), ("column".toList, .number token.span.column),
      ("start".toList, .number token.span.start), ("end".toList, .number token.span.stop)]
  match token.cause? with
  | some cause => .object (members ++ [("error".toList, .text cause.message)])
  | none => .object members

/-- A token on a line of its own, behind its place. -/
def Token.placedLine (token : Token) : Text :=
  token.span.display ++ ['\t'] ++ token.display ++ Text.newline

namespace Dump

/-- The pieces in which the tokens are written: one for each token, or the array as a whole. -/
def pieces (format : DumpFormat) (tokens : List Token) : List Text :=
  match format with
  | .row => tokens.map fun token => token.display ++ [' ']
  | .lines => tokens.map Token.placedLine
  | .json => [(Json.array (tokens.map Token.record)).write]

/-- The tokens without the ending. -/
def body (format : DumpFormat) (tokens : List Token) : Text :=
  (pieces format tokens).flatten

/-- What follows the body. -/
def ending : DumpFormat → Text
  | .row | .json => Text.newline
  | .lines => []

/-- The whole dump. -/
def write (format : DumpFormat) (tokens : List Token) : Text :=
  body format tokens ++ ending format

end Dump

end TableLexer
