import TableLexer.Proofs.Findings

/-!
# Where tokens come from

A token stands in a source if the idle attempt completes it behind some part of the source, at the
place that the characters of this part lead to. Nothing is assumed about limits here: a count that
would pass its greatest value ends a scan, and until then everything is as if there were none.
Main statements: every token that any number of calls or a whole scan answers with stands in the
source, and every diagnostic that is recorded is the one of such a token; a whole scan answers with
the tokens of its source exactly if their counts stay within their limits.
-/

namespace TableLexer

/-- A token of a source at its place. -/
inductive Token.StandsIn (lexicon : Lexicon) (source : Text) : Token → Prop
  /-- It is what the idle attempt completes behind some part of the source. -/
  | behind {before covered after : Text} {finished : Finished}
      (hs : source = before ++ (covered ++ after))
      (hc : Attempt.Completes lexicon .idle covered finished after) :
      StandsIn lexicon source (finished.token lexicon (Mark.origin.afterAll before))

/-- Where passing a character succeeds, the place behind it is the one without limits, and its
counts are within theirs. -/
theorem Mark.of_pass {mark next : Mark} {char : Char} (h : mark.pass char = .ok next) :
    (mark.after char).fits = true ∧ next = mark.after char := by
  rw [pass] at h
  split at h
  · next hfits => exact ⟨hfits, (Except.ok.inj h).symm⟩
  · cases h

variable {lexicon : Lexicon} {start here : Mark} {text : Text} {pursuit : Pursuit}

/-- A pursuit that began a token ends where the token is recognised. -/
theorem exists_completes_of_pursue {attempt : Attempt} (hn : attempt ≠ .idle)
    (h : pursue lexicon attempt start here text = .ok pursuit) :
    ∃ covered finished rest, text = covered ++ rest ∧
      attempt.Completes lexicon covered finished rest ∧ here.Admits covered ∧
      pursuit = ⟨some finished, start, here.afterAll covered, rest⟩ := by
  induction text generalizing attempt here with
  | nil =>
    obtain ⟨finished, hf⟩ := Attempt.exists_finish hn
    rw [pursue, hf] at h
    exact ⟨[], finished, [], rfl, .ended hf, trivial, (Except.ok.inj h).symm⟩
  | cons char rest ih =>
    have hstart := Attempt.startAt_of_ne_idle hn start here
    rw [pursue, hstart] at h
    split at h
    · next hs => exact absurd (Attempt.step_eq_skip_iff.mp hs).1 hn
    · next further hs =>
      obtain ⟨next, hpass, h⟩ := Fault.exists_of_bind h
      obtain ⟨hfits, rfl⟩ := Mark.of_pass hpass
      obtain ⟨covered, finished, left, rfl, hc, ha, rfl⟩ := ih (Attempt.ne_idle_of_extend hs) h
      exact ⟨char :: covered, finished, left, rfl, .extended hs hc, ⟨hfits, ha⟩, rfl⟩
    · next finished hs =>
      obtain ⟨next, hpass, rfl⟩ := Fault.exists_of_map h
      obtain ⟨hfits, rfl⟩ := Mark.of_pass hpass
      exact ⟨[char], finished, rest, rfl, .closed hs, ⟨hfits, trivial⟩, rfl⟩
    · next finished hs =>
      exact ⟨[], finished, char :: rest, rfl, .released hs, trivial, (Except.ok.inj h).symm⟩

/-- A pursuit from the idle attempt passes white space, and then a token if there is one. -/
theorem exists_gap_of_pursue (h : pursue lexicon .idle start here text = .ok pursuit) :
    ((∀ char ∈ text, Text.isBlank char = true) ∧ here.Admits text ∧
      pursuit = ⟨none, start, here.afterAll text, []⟩) ∨
      ∃ gap covered finished rest, text = gap ++ (covered ++ rest) ∧
        (∀ char ∈ gap, Text.isBlank char = true) ∧
        Attempt.idle.Completes lexicon covered finished rest ∧ here.Admits (gap ++ covered) ∧
        pursuit =
          ⟨some finished, here.afterAll gap, (here.afterAll gap).afterAll covered, rest⟩ := by
  induction text generalizing here with
  | nil => exact Or.inl ⟨by simp, trivial, (Except.ok.inj h).symm⟩
  | cons char rest ih =>
    rw [pursue] at h
    split at h
    · next hs =>
      obtain ⟨next, hpass, h⟩ := Fault.exists_of_bind h
      obtain ⟨hfits, rfl⟩ := Mark.of_pass hpass
      have hblank := (Attempt.step_eq_skip_iff.mp hs).2
      rcases ih h with ⟨hb, ha, hnone⟩ | ⟨gap, covered, finished, left, rfl, hb, hc, ha, hp⟩
      · exact Or.inl ⟨List.forall_mem_cons.mpr ⟨hblank, hb⟩, ⟨hfits, ha⟩, hnone⟩
      · exact Or.inr ⟨char :: gap, covered, finished, left, rfl,
          List.forall_mem_cons.mpr ⟨hblank, hb⟩, hc, ⟨hfits, ha⟩, hp⟩
    · next further hs =>
      obtain ⟨next, hpass, h⟩ := Fault.exists_of_bind h
      obtain ⟨hfits, rfl⟩ := Mark.of_pass hpass
      obtain ⟨covered, finished, left, rfl, hc, ha, hp⟩ :=
        exists_completes_of_pursue (Attempt.ne_idle_of_extend hs) h
      exact Or.inr ⟨[], char :: covered, finished, left, rfl, by simp, .extended hs hc,
        ⟨hfits, ha⟩, hp⟩
    · next finished hs =>
      obtain ⟨next, hpass, rfl⟩ := Fault.exists_of_map h
      obtain ⟨hfits, rfl⟩ := Mark.of_pass hpass
      exact Or.inr ⟨[], [char], finished, rest, rfl, by simp, .closed hs, ⟨hfits, trivial⟩, rfl⟩
    · next finished hs => exact absurd hs (Attempt.start_ne_release _ _ _)

namespace Scanner

variable {collector collected : Collector} {behind last : Scanner}

/-- All that a call from the middle of a source can come to: no answer behind white space alone, or
the token that the idle attempt completes behind white space. -/
theorem exists_of_next {mark : Mark} {passed rest : Text} {answer : Option Token}
    (hp : mark.position = Text.byteLength passed)
    (h : (amid lexicon passed rest mark).next collector = .ok (answer, behind, collected)) :
    (answer = none ∧ (∀ char ∈ rest, Text.isBlank char = true) ∧ mark.Admits rest ∧
      behind = amid lexicon (passed ++ rest) [] (mark.afterAll rest)) ∨
    ∃ gap covered finished left, rest = gap ++ (covered ++ left) ∧
      (∀ char ∈ gap, Text.isBlank char = true) ∧
      Attempt.idle.Completes lexicon covered finished left ∧ mark.Admits (gap ++ covered) ∧
      answer = some (finished.token lexicon (mark.afterAll gap)) ∧
      behind = amid lexicon (passed ++ (gap ++ covered)) left (mark.afterAll (gap ++ covered)) := by
  rw [next_eq] at h
  obtain ⟨pursuit, hpursue, h⟩ := Fault.exists_of_bind h
  rcases exists_gap_of_pursue hpursue with
    ⟨hb, ha, rfl⟩ | ⟨gap, covered, finished, left, he, hb, hc, ha, rfl⟩
  · obtain ⟨rfl, rfl, -⟩ : none = answer ∧ _ = behind ∧ collector = collected := by
      simpa using h
    refine Or.inl ⟨rfl, hb, ha, ?_⟩
    simp [Scanner.behind, amid]
  · obtain rfl : rest = gap ++ (covered ++ left) := he
    obtain ⟨token, ht, h⟩ := Fault.exists_of_bind h
    obtain ⟨-, -, h⟩ := Fault.exists_of_map h
    obtain ⟨rfl, hbehind, -⟩ : some token = answer ∧ _ = behind ∧
        (report collector token).2 = collected := by
      simpa using h
    have hamid : behind = amid lexicon (passed ++ gap ++ covered) left
        ((mark.afterAll gap).afterAll covered) := by
      rw [← hbehind]
      simp [Scanner.behind, amid]
    have hposition : (mark.afterAll gap).position = Text.byteLength (passed ++ gap) := by
      rw [Mark.afterAll_position, Text.byteLength_append, hp]
    have htoken := token_eq lexicon hc hposition
    rw [← hamid, ← hbehind] at htoken
    obtain rfl := Except.ok.inj (ht.symm.trans htoken)
    refine Or.inr ⟨gap, covered, finished, left, rfl, hb, hc, ha, rfl, ?_⟩
    rw [hamid, List.append_assoc, Mark.afterAll_append]

/-- The position behind the passed part of a source is its number of bytes. -/
theorem position_behind (passed : Text) :
    (Mark.origin.afterAll passed).position = Text.byteLength passed := by
  rw [Mark.origin_afterAll]

/-- A call from behind some part of a source leads behind more of it, and answers with a token
that stands in the source, if with any. -/
theorem standsIn_of_next {passed rest : Text} {answer : Option Token}
    (h : (amid lexicon passed rest (Mark.origin.afterAll passed)).next collector =
      .ok (answer, behind, collected)) :
    (∃ more left, rest = more ++ left ∧
      behind = amid lexicon (passed ++ more) left (Mark.origin.afterAll (passed ++ more))) ∧
    ∀ token ∈ answer, token.StandsIn lexicon (passed ++ rest) := by
  rcases exists_of_next (position_behind passed) h with
    ⟨rfl, -, -, rfl⟩ | ⟨gap, covered, finished, left, rfl, -, hc, -, rfl, rfl⟩
  · refine ⟨⟨rest, [], (List.append_nil rest).symm, ?_⟩, by simp⟩
    rw [Mark.afterAll_append]
  · refine ⟨⟨gap ++ covered, left, (List.append_assoc _ _ _).symm, ?_⟩, ?_⟩
    · rw [Mark.afterAll_append Mark.origin]
    · rintro _ ⟨⟩
      have hs : passed ++ (gap ++ (covered ++ left)) = passed ++ gap ++ (covered ++ left) :=
        (List.append_assoc _ _ _).symm
      have hstands : Token.StandsIn lexicon _ _ := .behind hs hc
      rwa [Mark.afterAll_append] at hstands

/-- A scan that answers has made a call for each of its tokens, and a last one without an
answer. -/
theorem exists_of_run {scanner : Scanner} {tokens : List Token}
    (h : scanner.run collector = .ok (tokens, last, collected)) :
    (tokens = [] ∧ scanner.next collector = .ok (none, last, collected)) ∨
      ∃ token others next kept, tokens = token :: others ∧
        scanner.next collector = .ok (some token, next, kept) ∧
        next.run kept = .ok (others, last, collected) := by
  cases hn : scanner.next collector with
  | error fault =>
    rw [run_of_next_error hn] at h
    cases h
  | ok result =>
    obtain ⟨answer, next, kept⟩ := result
    cases answer with
    | none =>
      rw [run_of_next_none hn] at h
      cases h
      exact Or.inl ⟨rfl, rfl⟩
    | some token =>
      rw [run_of_next_some hn] at h
      obtain ⟨⟨others, scan, found⟩, hr, h⟩ := Fault.exists_of_map h
      cases h
      exact Or.inr ⟨token, others, next, kept, rfl, rfl, hr⟩

/-- A scan from the middle of a source on answers with the tokens of the rest, and its counts admit
the rest. -/
theorem scans_of_run {tokens : List Token} {mark : Mark} {passed rest : Text}
    (hp : mark.position = Text.byteLength passed)
    (h : (amid lexicon passed rest mark).run collector = .ok (tokens, last, collected)) :
    Scans lexicon mark rest tokens ∧ mark.Admits rest := by
  induction tokens generalizing mark passed rest collector with
  | nil =>
    rcases exists_of_run h with ⟨-, hn⟩ | ⟨token, others, next, kept, he, -⟩
    · rcases exists_of_next hp hn with ⟨-, hb, ha, -⟩ | ⟨_, _, _, _, -, -, -, -, he, -⟩
      · have hblank : Scans lexicon mark (rest ++ []) [] := .of_blank hb .done
        rw [List.append_nil] at hblank
        exact ⟨hblank, ha⟩
      · cases he
    · cases he
  | cons token tokens ih =>
    rcases exists_of_run h with ⟨he, -⟩ | ⟨first, others, next, kept, he, hn, hr⟩
    · cases he
    · obtain ⟨rfl, rfl⟩ := List.cons.inj he
      rcases exists_of_next hp hn with
        ⟨he, -⟩ | ⟨gap, covered, finished, left, rfl, hb, hc, ha, htoken, rfl⟩
      · cases he
      · have hposition : (mark.afterAll (gap ++ covered)).position =
            Text.byteLength (passed ++ (gap ++ covered)) := by
          rw [Mark.afterAll_position, hp, ← Text.byteLength_append]
        obtain ⟨hs, hleft⟩ := ih hposition hr
        rw [Mark.afterAll_append] at hs
        obtain rfl := Option.some.inj htoken
        refine ⟨Scans.of_blank hb (.token hc hs), ?_⟩
        rw [← List.append_assoc]
        exact Mark.admits_append.mpr ⟨ha, hleft⟩

/-- However many calls are made, every token among the answers stands in the source. -/
theorem standsIn_of_calls (passed : Text) {rest : Text} {count : Nat}
    {answers : List (Option Token)}
    (h : (amid lexicon passed rest (Mark.origin.afterAll passed)).calls count collector =
      .ok (answers, last, collected)) :
    ∀ token, some token ∈ answers → token.StandsIn lexicon (passed ++ rest) := by
  induction count generalizing passed rest collector answers last collected with
  | zero =>
    obtain ⟨rfl, -, -⟩ : [] = answers ∧ _ = last ∧ collector = collected := by
      simpa [calls] using h
    simp
  | succ count ih =>
    rw [calls] at h
    obtain ⟨⟨answer, next, held⟩, hn, h⟩ := Fault.exists_of_bind h
    obtain ⟨⟨others, scan, kept⟩, hc, h⟩ := Fault.exists_of_map h
    obtain ⟨rfl, -, -⟩ : answer :: others = answers ∧ scan = last ∧ kept = collected := by
      simpa using h
    obtain ⟨⟨more, left, rfl, rfl⟩, hanswer⟩ := standsIn_of_next hn
    have hothers := ih _ hc
    rw [List.append_assoc] at hothers
    intro token hm
    rcases List.mem_cons.mp hm with rfl | hm
    · exact hanswer token rfl
    · exact hothers token hm

/-- What any number of calls adds to a collector that keeps everything are the findings of the
tokens among the answers. -/
theorem findings_of_calls {scanner : Scanner} {recorded : List Diagnostic} {count : Nat}
    {answers : List (Option Token)}
    (h : scanner.calls count ⟨false, recorded⟩ = .ok (answers, last, collected)) :
    collected = ⟨false, recorded ++ answers.reduceOption.flatMap Token.findings⟩ := by
  induction count generalizing scanner recorded answers last collected with
  | zero =>
    obtain ⟨rfl, -, rfl⟩ : [] = answers ∧ scanner = last ∧ ⟨false, recorded⟩ = collected := by
      simpa [calls] using h
    simp
  | succ count ih =>
    rw [calls] at h
    obtain ⟨⟨answer, next, held⟩, hn, h⟩ := Fault.exists_of_bind h
    obtain ⟨⟨others, scan, kept⟩, hc, h⟩ := Fault.exists_of_map h
    obtain ⟨rfl, -, rfl⟩ : answer :: others = answers ∧ scan = last ∧ kept = collected := by
      simpa using h
    obtain ⟨rfl, -⟩ := next_of_next hn
    rw [ih hc, findings_cons, List.append_assoc]

end Scanner

/-- A scan that answers does so with the tokens of the source, whose counts stay within their
limits. -/
theorem scans_of_tokenize {lexicon : Lexicon} {source : Text} {collector collected : Collector}
    {tokens : List Token} (h : tokenize lexicon source collector = .ok (tokens, collected)) :
    Scans lexicon .origin source tokens ∧ Mark.origin.Admits source := by
  obtain ⟨⟨answered, last, found⟩, hr, h⟩ := Fault.exists_of_map h
  obtain ⟨rfl, -⟩ : answered = tokens ∧ found = collected := by simpa using h
  have hstart : Scanner.start lexicon source = Scanner.amid lexicon [] source .origin := rfl
  rw [hstart] at hr
  exact Scanner.scans_of_run rfl hr

/-- The scanner answers with these tokens exactly if they are those of the source and the counts of
the source stay within their limits. -/
theorem scansTo_iff {lexicon : Lexicon} {source : Text} {tokens : List Token} :
    ScansTo lexicon source tokens ↔
      Scans lexicon .origin source tokens ∧ Mark.origin.Admits source :=
  ⟨fun h => scans_of_tokenize (h []), fun h => h.1.scansTo_of_admits h.2⟩

/-- Every token that a scan of a source answers with stands in it. -/
theorem standsIn_of_tokenize {lexicon : Lexicon} {source : Text}
    {collector collected : Collector} {tokens : List Token}
    (h : tokenize lexicon source collector = .ok (tokens, collected)) :
    ∀ token ∈ tokens, token.StandsIn lexicon source := by
  have hs := (scans_of_tokenize h).1
  intro token hm
  obtain ⟨front, back, rfl⟩ := List.append_of_mem hm
  obtain ⟨passed, rest, rfl, hrest⟩ := hs.exists_of_append
  obtain ⟨gap, covered, finished, left, rfl, -, hc, rfl, -⟩ := hrest.exists_of_cons
  rw [← Mark.afterAll_append]
  exact .behind (List.append_assoc passed gap _).symm hc

/-- Every diagnostic that any number of calls on a source records is the one of a token that
stands in it. -/
theorem exists_standsIn_of_recorded {lexicon : Lexicon} {source : Text} {count : Nat}
    {answers : List (Option Token)} {last : Scanner} {collected : Collector}
    (h : (Scanner.start lexicon source).calls count .lenient = .ok (answers, last, collected)) :
    ∀ diagnostic ∈ collected.recorded, ∃ token, some token ∈ answers ∧
      token.StandsIn lexicon source ∧ token.diagnostic? = some diagnostic := by
  have hcollected := Scanner.findings_of_calls h
  have hstands := Scanner.standsIn_of_calls [] h
  intro diagnostic hm
  rw [hcollected, List.nil_append, List.mem_flatMap] at hm
  obtain ⟨token, ht, hd⟩ := hm
  rw [List.reduceOption_mem_iff] at ht
  rw [← Token.toList_diagnostic?, Option.mem_toList] at hd
  exact ⟨token, ht, hstands token ht, hd⟩

end TableLexer
