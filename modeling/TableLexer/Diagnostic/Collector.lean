import TableLexer.Fault

/-!
# Collecting diagnostics

A collector keeps the diagnostics of one or more scans in the order in which they are reported.
A strict collector is for input that is expected to be clean: it refuses the first error instead
of keeping it, which is a fault. A collector outlives the faults of its scans, so that a report
says what it holds also where it fails.
-/

namespace TableLexer

/-- The diagnostics reported so far. -/
structure Collector where
  /-- Whether an error is refused. -/
  strict : Bool
  /-- What was reported, oldest first. -/
  recorded : List Diagnostic
  deriving DecidableEq, Repr

namespace Collector

/-- A collector that keeps everything and holds nothing yet. -/
def lenient : Collector := ⟨false, []⟩

/-- A collector that refuses errors and holds nothing yet. -/
def refusing : Collector := ⟨true, []⟩

/-- Keep a diagnostic, or refuse it, with the collector behind it. -/
def record (collector : Collector) (diagnostic : Diagnostic) : Except Fault Unit × Collector :=
  if collector.strict && diagnostic.severity == .error then
    (.error (.unexpected diagnostic), collector)
  else (.ok (), { collector with recorded := collector.recorded ++ [diagnostic] })

/-- Number of errors held. -/
def errorCount (collector : Collector) : Nat :=
  collector.recorded.countP fun diagnostic => diagnostic.severity == .error

/-- Whether an error is held. -/
def hasErrors (collector : Collector) : Bool := 0 < collector.errorCount

end Collector

end TableLexer
