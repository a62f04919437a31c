import TableLexer.Diagnostic.Collector
import TableLexer.Lexicon.Classify
import TableLexer.Scan.Finding
import TableLexer.Scan.Pursuit

/-!
# The scanner

A scanner turns a source into tokens, one at a time. Every malformed piece becomes a token of its
own and a diagnostic, and scanning goes on behind it. Main statements: a call has to do with the
collector only in what it reports, and each token leaves less to scan, so that a scan ends.
-/

namespace TableLexer

/-- The body of a closed string literal: the text without the quotes at its ends. Any other text
stays as it is. -/
def stripQuotes (text : Text) : Text :=
  if 2 ≤ text.length ∧ text.head? = some '"' ∧ text.getLast? = some '"' then
    text.tail.dropLast
  else text

/-- A scan in progress. -/
structure Scanner where
  /-- The tables that it goes by. -/
  lexicon : Lexicon
  /-- How far the scan has come. -/
  cursor : Cursor
  deriving DecidableEq, Repr

namespace Scanner

/-- The scan of a source that has not begun. -/
def start (lexicon : Lexicon) (source : Text) : Scanner := ⟨lexicon, .start source⟩

/-- The token of an attempt that started at `start` and ended at the cursor. -/
def token (scanner : Scanner) (start : Mark) (finished : Finished) : Except Fault Token :=
  (scanner.cursor.sliceFrom start.position).bind fun covered =>
    if covered = finished.text then
      (scanner.lexicon.classify finished.text finished.category).map fun kind =>
        ⟨kind, if kind = .string then stripQuotes finished.text else finished.text,
          ⟨start.position, scanner.cursor.mark.position, start.line, start.column⟩⟩
    else .error .lexemeMismatch

/-- Report a token if it is malformed, with the collector behind it. -/
def report (collector : Collector) (token : Token) : Except Fault Unit × Collector :=
  match token.diagnostic? with
  | some diagnostic => collector.record diagnostic
  | none => (.ok (), collector)

/-- The scan behind a pursuit. -/
def behind (scanner : Scanner) (pursuit : Pursuit) : Scanner :=
  { scanner with cursor := ⟨scanner.cursor.source, pursuit.rest, pursuit.mark⟩ }

/-- A call for the next token: the token, or none at the end of the source, and the scan behind it,
unless the call stops at a fault; and the collector behind the call, which stops at none. -/
def call (scanner : Scanner) (collector : Collector) :
    Except Fault (Option Token × Scanner) × Collector :=
  match pursue scanner.lexicon .idle scanner.cursor.mark scanner.cursor.mark
      scanner.cursor.rest with
  | .error fault => (.error fault, collector)
  | .ok pursuit =>
    match pursuit.finished with
    | none => (.ok (none, scanner.behind pursuit), collector)
    | some finished =>
      match (scanner.behind pursuit).token pursuit.start finished with
      | .error fault => (.error fault, collector)
      | .ok token =>
        let (reported, collector) := report collector token
        (reported.map fun () => (some token, scanner.behind pursuit), collector)

/-- The answer of a call, with the scan and the collector behind it. -/
def next (scanner : Scanner) (collector : Collector) :
    Except Fault (Option Token × Scanner × Collector) :=
  let (answer, collector) := scanner.call collector
  answer.map fun (token, behind) => (token, behind, collector)

/-- All that a call can come to: it stops before there is a token, or finds the end of the source,
and sees nothing of the collector; or it finds a token, which is reported. -/
theorem call_cases (scanner : Scanner) :
    (∃ fault, ∀ collector, scanner.call collector = (.error fault, collector)) ∨
    (∃ behind, ∀ collector, scanner.call collector = (.ok (none, behind), collector)) ∨
    ∃ token behind, ∀ collector, scanner.call collector =
      ((report collector token).1.map fun () => (some token, behind),
        (report collector token).2) := by
  cases hpursue : pursue scanner.lexicon .idle scanner.cursor.mark scanner.cursor.mark
      scanner.cursor.rest with
  | error fault => exact Or.inl ⟨fault, fun _ => by simp only [call, hpursue]⟩
  | ok pursuit =>
    cases hfinished : pursuit.finished with
    | none =>
      exact Or.inr (Or.inl ⟨scanner.behind pursuit, fun _ => by
        simp only [call, hpursue, hfinished]⟩)
    | some finished =>
      cases htoken : (scanner.behind pursuit).token pursuit.start finished with
      | error fault =>
        exact Or.inl ⟨fault, fun _ => by simp only [call, hpursue, hfinished, htoken]⟩
      | ok token =>
        exact Or.inr (Or.inr ⟨token, scanner.behind pursuit, fun _ => by
          simp only [call, hpursue, hfinished, htoken]⟩)

/-- A call is answered with what a pursuit completes, once that is reported. -/
theorem next_eq (scanner : Scanner) (collector : Collector) :
    scanner.next collector =
      (pursue scanner.lexicon .idle scanner.cursor.mark scanner.cursor.mark
        scanner.cursor.rest).bind fun pursuit =>
        match pursuit.finished with
        | none => .ok (none, scanner.behind pursuit, collector)
        | some finished =>
          ((scanner.behind pursuit).token pursuit.start finished).bind fun token =>
            (report collector token).1.map fun () =>
              (some token, scanner.behind pursuit, (report collector token).2) := by
  rw [next, call]
  cases pursue scanner.lexicon .idle scanner.cursor.mark scanner.cursor.mark
      scanner.cursor.rest with
  | error fault => rfl
  | ok pursuit =>
    dsimp only [Except.bind]
    cases pursuit.finished with
    | none => rfl
    | some finished =>
      dsimp only
      cases (scanner.behind pursuit).token pursuit.start finished with
      | error fault => rfl
      | ok token =>
        dsimp only
        cases (report collector token).1 <;> rfl

/-- A token leaves less to scan. -/
theorem next_rest_length_lt {scanner last : Scanner} {collector collected : Collector}
    {token : Token} (h : scanner.next collector = .ok (some token, last, collected)) :
    last.cursor.rest.length < scanner.cursor.rest.length := by
  rw [next_eq] at h
  obtain ⟨pursuit, pursued, h⟩ := Fault.exists_of_bind h
  split at h
  · cases h
  · next finished found =>
    obtain ⟨_, _, h⟩ := Fault.exists_of_bind h
    obtain ⟨_, _, h⟩ := Fault.exists_of_map h
    obtain ⟨_, rfl, _⟩ := Prod.mk.injEq .. ▸ h
    exact pursue_idle_rest_length_lt pursued (by simp [found])

/-- All tokens that are left, with the scan and the collector behind them. -/
def run (scanner : Scanner) (collector : Collector) :
    Except Fault (List Token × Scanner × Collector) :=
  match _h : scanner.next collector with
  | .error fault => .error fault
  | .ok (none, behind, collector) => .ok ([], behind, collector)
  | .ok (some token, behind, collector) =>
    (run behind collector).map fun (tokens, last, collector) => (token :: tokens, last, collector)
termination_by scanner.cursor.rest.length
decreasing_by exact next_rest_length_lt _h

end Scanner

/-- Scan a whole source: its tokens, and the collector with what was reported. -/
def tokenize (lexicon : Lexicon) (source : Text) (collector : Collector) :
    Except Fault (List Token × Collector) :=
  ((Scanner.start lexicon source).run collector).map fun (tokens, _, collector) =>
    (tokens, collector)

end TableLexer
