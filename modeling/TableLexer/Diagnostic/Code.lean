import TableLexer.Text.Basic

/-!
# Diagnostic codes

A code is a series letter and a number; it names a kind of problem for good, whatever the wording
of its message.
-/

namespace TableLexer

/-- The stable name of a kind of problem. -/
structure DiagnosticCode where
  /-- The series, such as `E` for errors. -/
  series : Text
  /-- The number within the series. -/
  number : Nat
  deriving DecidableEq, Repr

namespace DiagnosticCode

/-- The code as reports show it: the series and the number in at least four digits. -/
def display (code : DiagnosticCode) : Text :=
  code.series ++ (Text.decimal code.number).leftpad 4 '0'

/-- A character that starts no token. -/
def unexpectedCharacter : DiagnosticCode := ⟨"E".toList, 1001⟩

/-- A string literal that the input leaves open. -/
def unterminatedString : DiagnosticCode := ⟨"E".toList, 1002⟩

/-- A block comment that the input leaves open. -/
def unterminatedComment : DiagnosticCode := ⟨"E".toList, 1003⟩

/-- A beginning of operators that is none itself. -/
def unknownOperator : DiagnosticCode := ⟨"E".toList, 1004⟩

end DiagnosticCode

end TableLexer
