import TableLexer.Diagnostic.Code
import TableLexer.Span

/-!
# Diagnostics

A diagnostic says what is wrong, where, and how to mend it. It is built from a message and a
span; a code and further advice are added one by one.
-/

namespace TableLexer

/-- How serious a diagnostic is. -/
inductive Severity where
  /-- The input is malformed. -/
  | error
  deriving DecidableEq, Repr

/-- The word for a severity. -/
def Severity.name : Severity → Text
  | .error => "error".toList

/-- One reported problem. -/
structure Diagnostic where
  /-- How serious it is. -/
  severity : Severity
  /-- What is wrong, in one line. -/
  message : Text
  /-- Where it is wrong; `Span.nowhere` if that cannot be said. -/
  span : Span
  /-- The kind of problem, if it has a code. -/
  code : Option DiagnosticCode
  /-- Pieces of advice, in order. -/
  advice : List Text
  deriving DecidableEq, Repr

namespace Diagnostic

/-- An error without a code and without advice. -/
def error (message : Text) (span : Span) : Diagnostic :=
  ⟨.error, message, span, none, []⟩

/-- The diagnostic with a code in place of any it had. -/
def withCode (diagnostic : Diagnostic) (code : DiagnosticCode) : Diagnostic :=
  { diagnostic with code := some code }

/-- The diagnostic with one more piece of advice. -/
def withAdvice (diagnostic : Diagnostic) (advice : Text) : Diagnostic :=
  { diagnostic with advice := diagnostic.advice ++ [advice] }

/-- Severity, code and message: what every form of a diagnostic starts with. -/
def heading (diagnostic : Diagnostic) : Text :=
  let code :=
    match diagnostic.code with
    | some code => "[".toList ++ code.display ++ "]".toList
    | none => []
  diagnostic.severity.name ++ code ++ ": ".toList ++ diagnostic.message

/-- The diagnostic in one line. -/
def summary (diagnostic : Diagnostic) : Text :=
  diagnostic.heading ++ " at ".toList ++ diagnostic.span.display

end Diagnostic

end TableLexer
