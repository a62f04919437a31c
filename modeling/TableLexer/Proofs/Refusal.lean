import TableLexer.Proofs.Findings

/-!
# Scans that refuse errors

A refusing collector turns the first malformed token into a fault. A session is what a caller sees
of a number of calls, up to the first that stops: each answer with the place of the cursor, and what
the collector holds behind each call, the one that stops included. Main statement: with a refusing
collector a caller sees the session of a lenient one up to the first malformed token, where the
calls stop with the diagnostic that the lenient one records first, and nothing is ever held.
-/

namespace TableLexer

/-- Nothing that was recorded is lost when a diagnostic is kept or refused. -/
theorem Collector.prefix_recorded_record (collector : Collector) (diagnostic : Diagnostic) :
    collector.recorded <+: (collector.record diagnostic).2.recorded := by
  rw [record]
  split
  · exact List.prefix_rfl
  · exact List.prefix_append _ _

namespace Scanner

/-- What a caller sees of a call that was answered. -/
structure Sighting where
  /-- The token, unless the source is at its end. -/
  answer : Option Token
  /-- The place of the cursor behind the call. -/
  mark : Mark
  /-- What the collector holds behind the call. -/
  recorded : List Diagnostic
  deriving DecidableEq, Repr

/-- What a caller sees of a number of calls. -/
structure Session where
  /-- The calls that were answered, in order. -/
  answered : List Sighting
  /-- Why a further call stopped, if one did. -/
  fault : Option Fault
  /-- What the collector holds in the end. -/
  recorded : List Diagnostic
  deriving DecidableEq, Repr

/-- A call was not answered with a malformed token. -/
def Sighting.IsClean (seen : Sighting) : Prop :=
  ∀ token ∈ seen.answer, token.isMalformed = false

/-- So many calls, up to the first that stops, which leaves the collector as it left it. -/
def watch : Nat → Scanner → Collector → Session
  | 0, _, collector => ⟨[], none, collector.recorded⟩
  | count + 1, scanner, collector =>
    match scanner.call collector with
    | (.error fault, collected) => ⟨[], some fault, collected.recorded⟩
    | (.ok (answer, behind), collected) =>
      let session := watch count behind collected
      ⟨⟨answer, behind.cursor.mark, collected.recorded⟩ :: session.answered, session.fault,
        session.recorded⟩

variable {scanner behind : Scanner} {collector collected : Collector} {answer : Option Token}

/-- A call that stops is the last one. -/
theorem watch_of_call_error {fault : Fault} (h : scanner.call collector = (.error fault, collected))
    (count : Nat) : scanner.watch (count + 1) collector = ⟨[], some fault, collected.recorded⟩ := by
  rw [watch, h]

/-- A call that is answered is followed by the others. -/
theorem watch_of_call (h : scanner.call collector = (.ok (answer, behind), collected))
    (count : Nat) : scanner.watch (count + 1) collector =
      ⟨⟨answer, behind.cursor.mark, collected.recorded⟩ :: (behind.watch count collected).answered,
        (behind.watch count collected).fault, (behind.watch count collected).recorded⟩ := by
  rw [watch, h]

/-- A call that is answered leaves the collector that its answer comes with. -/
theorem call_of_next (h : scanner.next collector = .ok (answer, behind, collected)) :
    scanner.call collector = (.ok (answer, behind), collected) := by
  rcases hcall : scanner.call collector with ⟨fault | ⟨token, rest⟩, left⟩
  · rw [next, hcall] at h
    cases h
  · rw [next, hcall] at h
    cases h
    rfl

/-- What calls answer that do not stop is what a caller sees. -/
theorem watch_of_calls {last : Scanner} {count : Nat} {answers : List (Option Token)}
    (h : scanner.calls count collector = .ok (answers, last, collected)) :
    (scanner.watch count collector).answered.map Sighting.answer = answers ∧
      (scanner.watch count collector).fault = none ∧
      (scanner.watch count collector).recorded = collected.recorded := by
  induction count generalizing scanner collector answers with
  | zero =>
    rw [calls] at h
    cases h
    exact ⟨rfl, rfl, rfl⟩
  | succ count ih =>
    rw [calls] at h
    obtain ⟨⟨answer, next, held⟩, hn, h⟩ := Fault.exists_of_bind h
    obtain ⟨⟨others, scan, kept⟩, hc, h⟩ := Fault.exists_of_map h
    cases h
    obtain ⟨hanswers, hfault, hrecorded⟩ := ih hc
    rw [watch_of_call (call_of_next hn)]
    exact ⟨by rw [List.map_cons, hanswers], hfault, hrecorded⟩

/-- Nothing that was recorded is lost when a token is reported. -/
theorem prefix_recorded_report (collector : Collector) (token : Token) :
    collector.recorded <+: (report collector token).2.recorded := by
  rw [report]
  split
  · exact collector.prefix_recorded_record _
  · exact List.prefix_rfl

/-- Nothing that was recorded is lost by a call, whether it is answered or stops. -/
theorem prefix_recorded_call (scanner : Scanner) (collector : Collector) :
    collector.recorded <+: (scanner.call collector).2.recorded := by
  rcases scanner.call_cases with ⟨fault, h⟩ | ⟨behind, h⟩ | ⟨token, behind, h⟩
  · exact ⟨[], by rw [h, List.append_nil]⟩
  · exact ⟨[], by rw [h, List.append_nil]⟩
  · rw [h]
    exact prefix_recorded_report collector token

/-- What was recorded before the calls stands in front of what is recorded in the end. -/
theorem prefix_recorded_watch (count : Nat) (scanner : Scanner) (collector : Collector) :
    collector.recorded <+: (scanner.watch count collector).recorded := by
  induction count generalizing scanner collector with
  | zero => exact List.prefix_rfl
  | succ count ih =>
    have hone := scanner.prefix_recorded_call collector
    rcases hcall : scanner.call collector with ⟨fault | ⟨answer, behind⟩, collected⟩
    · rw [hcall] at hone
      rwa [watch_of_call_error hcall]
    · rw [hcall] at hone
      rw [watch_of_call hcall]
      exact hone.trans (ih behind collected)

/-- A refusing collector stops at what a lenient one would record, and holds nothing either way. -/
theorem report_refusing (token : Token) :
    report .refusing token =
      (match token.diagnostic? with
        | some diagnostic => .error (.unexpected diagnostic)
        | none => .ok (),
      .refusing) := by
  obtain ⟨kind, lexeme, span⟩ := token
  cases kind <;> rfl

/-- One call with a lenient and one with a refusing collector: both stop at the same fault, or both
are answered alike and nothing is recorded, or the lenient one records the diagnostic at which the
refusing one stops. The refusing collector holds nothing behind the call. -/
theorem call_together (scanner : Scanner) :
    (∃ fault, scanner.call .lenient = (.error fault, .lenient) ∧
      scanner.call .refusing = (.error fault, .refusing)) ∨
    (∃ answer behind, (∀ token ∈ answer, token.isMalformed = false) ∧
      scanner.call .lenient = (.ok (answer, behind), .lenient) ∧
      scanner.call .refusing = (.ok (answer, behind), .refusing)) ∨
    ∃ token behind diagnostic, token.isMalformed = true ∧
      scanner.call .lenient = (.ok (some token, behind), ⟨false, [diagnostic]⟩) ∧
      scanner.call .refusing = (.error (.unexpected diagnostic), .refusing) := by
  rcases scanner.call_cases with ⟨fault, h⟩ | ⟨behind, h⟩ | ⟨token, behind, h⟩
  · exact Or.inl ⟨fault, h _, h _⟩
  · exact Or.inr (Or.inl ⟨none, behind, by simp, h _, h _⟩)
  · rw [h, h, report_refusing]
    obtain ⟨kind, lexeme, span⟩ := token
    cases kind with
    | malformed cause => exact Or.inr (Or.inr ⟨_, _, _, rfl, rfl, rfl⟩)
    | _ =>
      refine Or.inr (Or.inl ⟨_, _, ?_, rfl, rfl⟩)
      rintro _ ⟨⟩
      rfl

/-- How a session with a refusing collector compares with the same session with a lenient one. -/
structure Refuses (plain strict : Session) : Prop where
  /-- Nothing is ever held. -/
  nothing_held : strict.recorded = [] ∧ ∀ seen ∈ strict.answered, seen.recorded = []
  /-- Without a malformed token there is no difference. -/
  clean : (∀ seen ∈ plain.answered, seen.IsClean) → strict = plain
  /-- The calls are answered alike up to the first malformed token, where they stop with the
  diagnostic that is recorded first otherwise. -/
  stops : ∀ before seen after, plain.answered = before ++ seen :: after →
    (∀ earlier ∈ before, earlier.IsClean) → ¬ seen.IsClean →
      ∃ diagnostic, plain.recorded.head? = some diagnostic ∧
        strict = ⟨before, some (.unexpected diagnostic), []⟩

/-- Any number of calls on any scan compare so. -/
theorem refuses_watch (count : Nat) (scanner : Scanner) :
    Refuses (scanner.watch count .lenient) (scanner.watch count .refusing) := by
  induction count generalizing scanner with
  | zero => exact ⟨⟨rfl, by simp [watch]⟩, fun _ => rfl, by simp [watch]⟩
  | succ count ih =>
    rcases call_together scanner with
      ⟨fault, hplain, hstrict⟩ | ⟨answer, behind, hclean, hplain, hstrict⟩ |
      ⟨token, behind, diagnostic, hmalformed, hplain, hstrict⟩
    · rw [watch_of_call_error hplain, watch_of_call_error hstrict]
      exact ⟨⟨rfl, by simp⟩, fun _ => rfl, by simp⟩
    · obtain ⟨⟨hheld, hnothing⟩, hsame, hstops⟩ := ih behind
      rw [watch_of_call hplain, watch_of_call hstrict]
      refine ⟨⟨hheld, List.forall_mem_cons.mpr ⟨rfl, hnothing⟩⟩, fun hall => ?_, ?_⟩
      · rw [hsame (List.forall_mem_cons.mp hall).2]
        rfl
      · intro before seen after he hbefore hseen
        cases before with
        | nil =>
          obtain ⟨rfl, -⟩ := List.cons.inj he
          exact absurd hclean hseen
        | cons first earlier =>
          obtain ⟨rfl, hothers⟩ := List.cons.inj he
          obtain ⟨diagnostic, hfirst, hstrict⟩ :=
            hstops earlier seen after hothers (List.forall_mem_cons.mp hbefore).2 hseen
          refine ⟨diagnostic, hfirst, ?_⟩
          rw [hstrict]
          rfl
    · have hrefused : ¬ Sighting.IsClean ⟨some token, behind.cursor.mark, [diagnostic]⟩ := by
        intro hclean
        have hnone := hclean token rfl
        rw [hmalformed] at hnone
        cases hnone
      have hfirst : (behind.watch count ⟨false, [diagnostic]⟩).recorded.head? =
          some diagnostic := by
        obtain ⟨more, hmore⟩ := prefix_recorded_watch count behind ⟨false, [diagnostic]⟩
        rw [← hmore]
        rfl
      rw [watch_of_call hplain, watch_of_call_error hstrict]
      refine ⟨⟨rfl, by simp⟩, fun hall => ?_, ?_⟩
      · exact absurd (List.forall_mem_cons.mp hall).1 hrefused
      · intro before seen after he hbefore hseen
        cases before with
        | nil => exact ⟨diagnostic, hfirst, rfl⟩
        | cons first earlier =>
          obtain ⟨rfl, -⟩ := List.cons.inj he
          exact absurd (List.forall_mem_cons.mp hbefore).1 hrefused

end Scanner

/-- With a refusing collector, any number of calls on a source show what they show with a lenient
one up to the first malformed token; there they stop with the diagnostic that the lenient one
records first, which the fault quotes, and nothing is held. On a source of fewer than `countLimit`
characters the lenient calls show the tokens of the source and do not stop. -/
theorem refusing_stops_at_first_finding (lexicon : Lexicon) (source : Text) (count : Nat) :
    Scanner.Refuses ((Scanner.start lexicon source).watch count .lenient)
      ((Scanner.start lexicon source).watch count .refusing) ∧
    (∀ diagnostic, (Fault.unexpected diagnostic).message =
      "unexpected ".toList ++ diagnostic.summary) ∧
    (source.length < countLimit → ∃ tokens, ScansTo lexicon source tokens ∧
      ((Scanner.start lexicon source).watch count .lenient).fault = none ∧
      ((Scanner.start lexicon source).watch count .lenient).answered.map Scanner.Sighting.answer =
        (tokens.take count).map some ++ List.replicate (count - tokens.length) none) := by
  refine ⟨Scanner.refuses_watch count _, fun _ => rfl, fun hl => ?_⟩
  obtain ⟨tokens, hs⟩ := exists_scans lexicon .origin source
  obtain ⟨last, hcalls, -⟩ := (Scanner.awaits_start hs hl).calls count []
  obtain ⟨hanswers, hfault, -⟩ := Scanner.watch_of_calls hcalls
  exact ⟨tokens, hs.scansTo hl, hfault, hanswers⟩

/-- A source with two malformed tokens behind a name: the second call stops with the diagnostic of
the first of them. -/
theorem refusing_stops_at_first_finding_of_two :
    "a @\"".toList.length < countLimit ∧
      ((Scanner.start .standard "a @\"".toList).watch 4 .lenient).fault = none ∧
      ((Scanner.start .standard "a @\"".toList).watch 4 .lenient).recorded.map
          Diagnostic.message =
        ["unexpected character `@`".toList, "unterminated string literal".toList] ∧
      ∃ diagnostic,
        ((Scanner.start .standard "a @\"".toList).watch 4 .lenient).recorded.head? =
          some diagnostic ∧
        (Scanner.start .standard "a @\"".toList).watch 4 .refusing =
          ⟨[⟨some ⟨.identifier, "a".toList, ⟨0, 1, 1, 1⟩⟩, ⟨1, 1, 2⟩, []⟩],
            some (.unexpected diagnostic), []⟩ ∧
        (Fault.unexpected diagnostic).message =
          "unexpected ".toList ++ "error[E1001]: unexpected character `@` at 1:3".toList := by
  have hl : "a @\"".toList.length < countLimit := by decide
  obtain ⟨hrefuses, hmessage, hlenient⟩ :=
    refusing_stops_at_first_finding .standard "a @\"".toList 4
  obtain ⟨tokens, -, hfault, -⟩ := hlenient hl
  have hmessages : ((Scanner.start .standard "a @\"".toList).watch 4 .lenient).recorded.map
      Diagnostic.message =
        ["unexpected character `@`".toList, "unterminated string literal".toList] := by
    decide +kernel
  have hanswered : ((Scanner.start .standard "a @\"".toList).watch 4 .lenient).answered =
      [⟨some ⟨.identifier, "a".toList, ⟨0, 1, 1, 1⟩⟩, ⟨1, 1, 2⟩, []⟩] ++
        ⟨some ⟨.malformed .unexpectedCharacter, "@".toList, ⟨2, 3, 1, 3⟩⟩, ⟨3, 1, 4⟩,
          Token.findings ⟨.malformed .unexpectedCharacter, "@".toList, ⟨2, 3, 1, 3⟩⟩⟩ ::
        ((Scanner.start .standard "a @\"".toList).watch 4 .lenient).answered.drop 2 := by
    decide +kernel
  have hclean : ∀ earlier ∈ [(⟨some ⟨.identifier, "a".toList, ⟨0, 1, 1, 1⟩⟩, ⟨1, 1, 2⟩, []⟩ :
      Scanner.Sighting)], earlier.IsClean := by
    simp [Scanner.Sighting.IsClean, Token.isMalformed, TokenKind.isMalformed, TokenKind.cause?]
  have hmalformed : ¬ Scanner.Sighting.IsClean
      ⟨some ⟨.malformed .unexpectedCharacter, "@".toList, ⟨2, 3, 1, 3⟩⟩, ⟨3, 1, 4⟩,
        Token.findings ⟨.malformed .unexpectedCharacter, "@".toList, ⟨2, 3, 1, 3⟩⟩⟩ := by
    simp [Scanner.Sighting.IsClean, Token.isMalformed, TokenKind.isMalformed, TokenKind.cause?]
  obtain ⟨diagnostic, hfirst, hstrict⟩ := hrefuses.stops _ _ _ hanswered hclean hmalformed
  have hsummary : ((Scanner.start .standard "a @\"".toList).watch 4 .lenient).recorded.head?.map
      Diagnostic.summary = some "error[E1001]: unexpected character `@` at 1:3".toList := by
    decide +kernel
  rw [hfirst] at hsummary
  refine ⟨hl, hfault, hmessages, diagnostic, hfirst, hstrict, ?_⟩
  rw [hmessage, Option.some.inj hsummary]

end TableLexer
