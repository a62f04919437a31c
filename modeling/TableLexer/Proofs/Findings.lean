import TableLexer.Proofs.Calls
import Mathlib.Data.List.Flatten
import Mathlib.Data.List.ReduceOption
import Mathlib.Logic.Function.Basic

/-!
# Findings and malformed tokens

What a scan adds to a collector is read off the tokens that it hands out, and what the collector
holds already has no influence on them. Several scans may share a collector and be called in turns.
Main statement: a call, a whole scan and every sequence of turns keep what was recorded before and
add one error for each malformed token handed out, in order; each scan answers as it does alone.
-/

namespace TableLexer

/-- What a token adds to a collector: an error at its place if it is malformed, with the code and
the advice for its cause, and nothing otherwise. The lexeme is shown unless the input ended too
early. -/
def Token.findings (token : Token) : List Diagnostic :=
  match token.kind with
  | .malformed cause =>
    [{ severity := .error
       message :=
        if cause.isUnterminated then cause.message
        else cause.message ++ " `".toList ++ Text.quote token.lexeme ++ "`".toList
       span := token.span
       code := some cause.code
       advice := [cause.advice] }]
  | _ => []

/-- The diagnostic of a token is what it adds. -/
theorem Token.toList_diagnostic? (token : Token) : token.diagnostic?.toList = token.findings := by
  obtain ⟨kind, lexeme, span⟩ := token
  cases kind <;> rfl

/-- One error is held more for each malformed token. -/
theorem errorCount_findings (recorded : List Diagnostic) (tokens : List Token) :
    Collector.errorCount ⟨false, recorded ++ tokens.flatMap Token.findings⟩ =
      Collector.errorCount ⟨false, recorded⟩ + tokens.countP Token.isMalformed := by
  induction tokens generalizing recorded with
  | nil => simp
  | cons token tokens ih =>
    have hone : Collector.errorCount ⟨false, recorded ++ token.findings⟩ =
        Collector.errorCount ⟨false, recorded⟩ + if token.isMalformed then 1 else 0 := by
      obtain ⟨kind, lexeme, span⟩ := token
      cases kind <;> simp [Collector.errorCount, Token.findings, Token.isMalformed,
        TokenKind.isMalformed, TokenKind.cause?]
    rw [List.flatMap_cons, ← List.append_assoc, ih, hone, List.countP_cons]
    omega

namespace Scanner

variable {scanner behind : Scanner} {recorded : List Diagnostic} {answer : Option Token}
  {collected : Collector}

/-- What a collector holds has no influence on a call, which adds what its answer adds. -/
theorem next_eq_map (scanner : Scanner) (recorded held : List Diagnostic) :
    scanner.next ⟨false, recorded⟩ =
      (scanner.next ⟨false, held⟩).map fun (answer, behind, _) =>
        (answer, behind, ⟨false, recorded ++ answer.toList.flatMap Token.findings⟩) := by
  rcases scanner.call_cases with ⟨fault, h⟩ | ⟨behind, h⟩ | ⟨token, behind, h⟩
  · rw [next, next, h, h]
    rfl
  · rw [next, next, h, h]
    simp [Except.map]
  · rw [next, next, h, h, report_eq, report_eq, Token.toList_diagnostic?]
    simp [Except.map]

/-- A call that is answered once is answered alike whatever is held. -/
theorem next_of_next (h : scanner.next ⟨false, recorded⟩ = .ok (answer, behind, collected)) :
    collected = ⟨false, recorded ++ answer.toList.flatMap Token.findings⟩ ∧
      ∀ held, scanner.next ⟨false, held⟩ =
        .ok (answer, behind, ⟨false, held ++ answer.toList.flatMap Token.findings⟩) := by
  have hheld : ∀ held, scanner.next ⟨false, held⟩ =
      .ok (answer, behind, ⟨false, held ++ answer.toList.flatMap Token.findings⟩) := by
    intro held
    rw [next_eq_map scanner held recorded, h]
    rfl
  have hsame := h.symm.trans (hheld recorded)
  simp only [Except.ok.injEq, Prod.mk.injEq, true_and] at hsame
  exact ⟨hsame, hheld⟩

/-- A scan ends at a fault. -/
theorem run_of_next_error {collector : Collector} {fault : Fault}
    (h : scanner.next collector = .error fault) : scanner.run collector = .error fault := by
  rw [run]
  split
  · next hn => rw [h] at hn; cases hn; rfl
  · next hn => rw [h] at hn; cases hn
  · next hn => rw [h] at hn; cases hn

/-- What a collector holds has no influence on a scan, which adds what its tokens add. -/
theorem run_eq_map (scanner : Scanner) (recorded held : List Diagnostic) :
    scanner.run ⟨false, recorded⟩ =
      (scanner.run ⟨false, held⟩).map fun (tokens, last, _) =>
        (tokens, last, ⟨false, recorded ++ tokens.flatMap Token.findings⟩) := by
  induction hn : scanner.cursor.rest.length using Nat.strongRecOn
    generalizing scanner recorded held with
  | ind count ih =>
    cases hnext : scanner.next ⟨false, held⟩ with
    | error fault =>
      have hother : scanner.next ⟨false, recorded⟩ = .error fault := by
        rw [next_eq_map scanner recorded held, hnext]
        rfl
      rw [run_of_next_error hother, run_of_next_error hnext]
      rfl
    | ok result =>
      obtain ⟨answer, behind, collected⟩ := result
      obtain ⟨rfl, hheld⟩ := next_of_next hnext
      have hother := hheld recorded
      cases answer with
      | none =>
        rw [run_of_next_none hother, run_of_next_none hnext]
        rfl
      | some token =>
        have hl := next_rest_length_lt hnext
        rw [run_of_next_some hother, run_of_next_some hnext,
          ih _ (hn ▸ hl) behind _ _ rfl]
        cases behind.run ⟨false, held ++ (some token).toList.flatMap Token.findings⟩ with
        | error fault => rfl
        | ok result => simp [Except.map]

end Scanner

/-- What a collector holds has no influence on the tokens of a source. -/
theorem tokenize_eq_map (lexicon : Lexicon) (source : Text) (recorded held : List Diagnostic) :
    tokenize lexicon source ⟨false, recorded⟩ =
      (tokenize lexicon source ⟨false, held⟩).map fun (tokens, _) =>
        (tokens, ⟨false, recorded ++ tokens.flatMap Token.findings⟩) := by
  rw [tokenize, tokenize, Scanner.run_eq_map _ recorded held]
  cases (Scanner.start lexicon source).run ⟨false, held⟩ with
  | error fault => rfl
  | ok result => rfl

section Turns

variable {ι : Type} [DecidableEq ι]

/-- Scans that share a collector are called by turns: who was called and what was answered, with
the scans and the collector behind the last turn. -/
def takeTurns : (ι → Scanner) → Collector → List ι →
    Except Fault (List (ι × Option Token) × (ι → Scanner) × Collector)
  | scanners, collector, [] => .ok ([], scanners, collector)
  | scanners, collector, turn :: turns =>
    ((scanners turn).next collector).bind fun (answer, behind, collector) =>
      (takeTurns (Function.update scanners turn behind) collector turns).map
        fun (answers, last, collector) => ((turn, answer) :: answers, last, collector)

/-- What one of the scans answered. -/
def answersOf (who : ι) (answers : List (ι × Option Token)) : List (Option Token) :=
  (answers.filter fun answer => answer.1 = who).map Prod.snd

theorem answersOf_cons_self (who : ι) (answer : Option Token)
    (answers : List (ι × Option Token)) :
    answersOf who ((who, answer) :: answers) = answer :: answersOf who answers := by
  simp [answersOf]

theorem answersOf_cons_of_ne {turn who : ι} (h : turn ≠ who) (answer : Option Token)
    (answers : List (ι × Option Token)) :
    answersOf who ((turn, answer) :: answers) = answersOf who answers := by
  simp [answersOf, h]

/-- What scans add that were called by turns. -/
structure Mirrored (scanners : ι → Scanner) (turns : List ι) (recorded : List Diagnostic)
    (answers : List (ι × Option Token)) (last : ι → Scanner) (collected : Collector) : Prop where
  /-- Every turn was answered. -/
  turns_eq : answers.map Prod.fst = turns
  /-- The findings of the tokens stand in the order of the turns behind what was held. -/
  recorded_eq : collected =
    ⟨false, recorded ++ (answers.map Prod.snd).reduceOption.flatMap Token.findings⟩
  /-- There is one error more for each malformed token. -/
  errorCount_eq : collected.errorCount = Collector.errorCount ⟨false, recorded⟩ +
    (answers.map Prod.snd).reduceOption.countP Token.isMalformed
  /-- Each scan answers and is left as if it had been called alone, whatever is held. -/
  alone : ∀ who held, (scanners who).calls (turns.count who) ⟨false, held⟩ =
    .ok (answersOf who answers, last who,
      ⟨false, held ++ (answersOf who answers).reduceOption.flatMap Token.findings⟩)
  /-- The findings of each scan stand in the order of its tokens. -/
  ordered : ∀ who, ((answersOf who answers).reduceOption.flatMap Token.findings).Sublist
    ((answers.map Prod.snd).reduceOption.flatMap Token.findings)

variable {scanners last : ι → Scanner} {turns : List ι} {recorded : List Diagnostic}
  {answers : List (ι × Option Token)} {collected : Collector}

/-- The findings of one scan are among those of all, in the same order. -/
theorem findings_answersOf_sublist (who : ι) (answers : List (ι × Option Token)) :
    ((answersOf who answers).reduceOption.flatMap Token.findings).Sublist
      ((answers.map Prod.snd).reduceOption.flatMap Token.findings) := by
  have hs : (answersOf who answers).Sublist (answers.map Prod.snd) :=
    List.filter_sublist.map Prod.snd
  exact (hs.filterMap id).flatMap Token.findings

/-- A further answer adds its findings in front. -/
theorem findings_cons (answer : Option Token) (answers : List (Option Token)) :
    (answer :: answers).reduceOption.flatMap Token.findings =
      answer.toList.flatMap Token.findings ++ answers.reduceOption.flatMap Token.findings := by
  cases answer with
  | none => rfl
  | some token => simp [List.reduceOption_cons_of_some]

/-- What was recorded behind the turns, and what each scan answered. -/
theorem takeTurns_eq
    (h : takeTurns scanners ⟨false, recorded⟩ turns = .ok (answers, last, collected)) :
    answers.map Prod.fst = turns ∧
      collected = ⟨false, recorded ++
        (answers.map Prod.snd).reduceOption.flatMap Token.findings⟩ ∧
      ∀ who held, (scanners who).calls (turns.count who) ⟨false, held⟩ =
        .ok (answersOf who answers, last who,
          ⟨false, held ++ (answersOf who answers).reduceOption.flatMap Token.findings⟩) := by
  induction turns generalizing scanners recorded answers with
  | nil =>
    obtain ⟨rfl, rfl, rfl⟩ : [] = answers ∧ scanners = last ∧ ⟨false, recorded⟩ = collected := by
      simpa [takeTurns] using h
    simp [answersOf, Scanner.calls]
  | cons turn turns ih =>
    rw [takeTurns] at h
    obtain ⟨⟨answer, behind, held⟩, hn, h⟩ := Fault.exists_of_bind h
    obtain ⟨⟨others, scans, kept⟩, hturns, h⟩ := Fault.exists_of_map h
    obtain ⟨rfl, rfl, rfl⟩ : (turn, answer) :: others = answers ∧ scans = last ∧
        kept = collected := by simpa using h
    obtain ⟨rfl, hheld⟩ := Scanner.next_of_next hn
    obtain ⟨hfst, hkept, halone⟩ := ih hturns
    refine ⟨by rw [List.map_cons, hfst], ?_, fun who other => ?_⟩
    · rw [hkept, List.append_assoc, List.map_cons, findings_cons]
    by_cases he : turn = who
    · subst he
      have hwho := halone turn (other ++ answer.toList.flatMap Token.findings)
      rw [Function.update_self] at hwho
      rw [List.count_cons_self, Scanner.calls, hheld]
      dsimp only [Except.bind]
      rw [hwho, answersOf_cons_self, findings_cons, List.append_assoc]
      rfl
    · have hwho := halone who other
      rw [Function.update_of_ne (Ne.symm he)] at hwho
      rw [List.count_cons_of_ne he, hwho, answersOf_cons_of_ne he]

/-- Scans that have room for all that is left answer every turn. -/
theorem exists_takeTurns {tokens : ι → List Token}
    (h : ∀ who, (scanners who).Awaits (tokens who)) (turns : List ι)
    (recorded : List Diagnostic) :
    ∃ answers last collected,
      takeTurns scanners ⟨false, recorded⟩ turns = .ok (answers, last, collected) := by
  induction turns generalizing scanners tokens recorded with
  | nil => exact ⟨[], scanners, _, rfl⟩
  | cons turn turns ih =>
    obtain ⟨behind, hn, hb⟩ := (h turn).next recorded
    have hall : ∀ who, (Function.update scanners turn behind who).Awaits
        (Function.update tokens turn (tokens turn).tail who) := by
      intro who
      by_cases he : who = turn
      · subst he
        rwa [Function.update_self, Function.update_self]
      · rw [Function.update_of_ne he, Function.update_of_ne he]
        exact h who
    obtain ⟨answers, last, collected, ht⟩ := ih hall _
    refine ⟨(turn, (tokens turn).head?) :: answers, last, collected, ?_⟩
    rw [takeTurns, hn]
    dsimp only [Except.bind]
    rw [ht]
    rfl

end Turns

/-- What a collector holds stays in front and has no influence on tokens. A call adds what its
answer adds, a scan what its tokens add, in order, and errors are counted as malformed tokens are.
Scans that take turns add what their answers add, and each of them answers as it does alone; on
sources of fewer than `countLimit` characters every turn is answered. -/
theorem findings_mirror_tokens (recorded held : List Diagnostic) :
    (∀ scanner : Scanner, scanner.next ⟨false, recorded⟩ =
      (scanner.next ⟨false, held⟩).map fun (answer, behind, _) =>
        (answer, behind, ⟨false, recorded ++ answer.toList.flatMap Token.findings⟩)) ∧
    (∀ lexicon source, tokenize lexicon source ⟨false, recorded⟩ =
      (tokenize lexicon source ⟨false, held⟩).map fun (tokens, _) =>
        (tokens, ⟨false, recorded ++ tokens.flatMap Token.findings⟩)) ∧
    (∀ tokens : List Token,
      Collector.errorCount ⟨false, recorded ++ tokens.flatMap Token.findings⟩ =
        Collector.errorCount ⟨false, recorded⟩ + tokens.countP Token.isMalformed) ∧
    ∀ {ι : Type} [DecidableEq ι] (turns : List ι),
      (∀ scanners answers last collected,
        takeTurns scanners ⟨false, recorded⟩ turns = .ok (answers, last, collected) →
          Mirrored scanners turns recorded answers last collected) ∧
      ∀ (lexicons : ι → Lexicon) (sources : ι → Text),
        (∀ who, (sources who).length < countLimit) → ∃ answers last collected,
          takeTurns (fun who => Scanner.start (lexicons who) (sources who)) ⟨false, recorded⟩
            turns = .ok (answers, last, collected) := by
  refine ⟨fun scanner => scanner.next_eq_map recorded held,
    fun lexicon source => tokenize_eq_map lexicon source recorded held,
    errorCount_findings recorded, fun turns => ⟨?_, ?_⟩⟩
  · intro scanners answers last collected h
    obtain ⟨hturns, rfl, halone⟩ := takeTurns_eq h
    exact ⟨hturns, rfl, errorCount_findings recorded _, halone,
      fun who => findings_answersOf_sublist who answers⟩
  · intro lexicons sources hl
    choose tokens hs using fun who => exists_scans (lexicons who) .origin (sources who)
    exact exists_takeTurns (fun who => Scanner.awaits_start (hs who) (hl who)) turns recorded

/-- Two sources that share a collector in which something is held, called in turns. Three of the
malformed characters are shown escaped. -/
theorem findings_mirror_turns :
    (∀ who, (cond who "'\\\n\x07\"".toList "&=".toList).length < countLimit) ∧
      ∃ answers last collected,
        Mirrored (fun who => Scanner.start .standard (cond who "'\\\n\x07\"".toList "&=".toList))
          [true, false, true, true, true, false, false]
          [Diagnostic.error "held".toList .nowhere] answers last collected ∧
        answers.map (fun answer => answer.2.map Token.kind) =
          [some (.malformed .unexpectedCharacter), some (.malformed .unknownOperator),
            some (.malformed .unexpectedCharacter), some (.malformed .unexpectedCharacter),
            some (.malformed .unterminatedString), some .operator, none] ∧
        collected.recorded.map Diagnostic.message =
          ["held".toList, "unexpected character `\\'`".toList, "unknown operator `&`".toList,
            "unexpected character `\\\\`".toList,
            "unexpected character `\\u\x7b7\x7d`".toList,
            "unterminated string literal".toList] := by
  have hl : ∀ who, (cond who "'\\\n\x07\"".toList "&=".toList).length < countLimit := by decide
  obtain ⟨-, -, -, hturns⟩ :=
    findings_mirror_tokens [Diagnostic.error "held".toList .nowhere] []
  obtain ⟨hmirrored, hexists⟩ := hturns [true, false, true, true, true, false, false]
  obtain ⟨answers, last, collected, h⟩ :=
    hexists (fun _ => .standard) (fun who => cond who "'\\\n\x07\"".toList "&=".toList) hl
  have he : (takeTurns
      (fun who => Scanner.start .standard (cond who "'\\\n\x07\"".toList "&=".toList))
      ⟨false, [Diagnostic.error "held".toList .nowhere]⟩
        [true, false, true, true, true, false, false]).map
        (fun result => (result.1.map fun answer => answer.2.map Token.kind,
          result.2.2.recorded.map Diagnostic.message)) =
      .ok ([some (.malformed .unexpectedCharacter), some (.malformed .unknownOperator),
          some (.malformed .unexpectedCharacter), some (.malformed .unexpectedCharacter),
          some (.malformed .unterminatedString), some .operator, none],
        ["held".toList, "unexpected character `\\'`".toList, "unknown operator `&`".toList,
          "unexpected character `\\\\`".toList,
          "unexpected character `\\u\x7b7\x7d`".toList,
          "unterminated string literal".toList]) := by
    decide +kernel
  rw [h] at he
  obtain ⟨hkinds, hmessages⟩ := Prod.mk.inj (Except.ok.inj he)
  exact ⟨hl, answers, last, collected, hmirrored _ _ _ _ h, hkinds, hmessages⟩

end TableLexer
