import TableLexer.Proofs.Origins

/-!
# Progress

A call that answers with a token has passed it, and a call without an answer has passed all that was
left. Every token begins with a character of its own that is no white space, so that there are no
more tokens than such characters. Nothing is assumed about limits: a call stops only over a count
that would pass its greatest value. Main statement: whatever number of calls was answered, they are
answered with tokens and then with none, the next call moves the cursor over its token or to the end
of the source, and behind the end nothing moves any more.
-/

namespace TableLexer

/-- Number of characters other than white space. -/
def Text.solidCount (text : Text) : Nat := text.countP fun char => !isBlank char

theorem Text.solidCount_append (first second : Text) :
    solidCount (first ++ second) = solidCount first + solidCount second :=
  List.countP_append

/-- A token has a character at least that is no white space. -/
theorem Attempt.Completes.solidCount_pos {lexicon : Lexicon} {covered rest : Text}
    {finished : Finished}
    (h : idle.Completes lexicon covered finished rest) : 0 < Text.solidCount covered := by
  obtain ⟨char, more, rfl⟩ := List.exists_cons_of_ne_nil h.ne_nil
  have hb := h.isBlank_eq_false
  exact List.countP_pos_iff.mpr ⟨char, List.mem_cons_self, by rw [hb]; rfl⟩

/-- Passing a character fails only over a count. -/
theorem Mark.of_pass_error {mark : Mark} {char : Char} {fault : Fault}
    (h : mark.pass char = .error fault) : fault = .overflow ∧ (mark.after char).fits = false := by
  rw [pass] at h
  split at h
  · cases h
  · next hfits => exact ⟨(Except.error.inj h).symm, by simpa using hfits⟩

/-- A pursuit fails only over a count that leaves its limits inside the text. -/
theorem pursue_error {lexicon : Lexicon} {attempt : Attempt} {start here : Mark} {text : Text}
    {fault : Fault}
    (h : pursue lexicon attempt start here text = .error fault) :
    fault = .overflow ∧ ¬ here.Admits text := by
  induction text generalizing attempt start here with
  | nil => cases h
  | cons char rest ih =>
    rw [pursue] at h
    cases hpass : here.pass char with
    | error stopped =>
      obtain ⟨hfault, hfits⟩ := Mark.of_pass_error hpass
      rw [hpass] at h
      have hadmits : ¬ here.Admits (char :: rest) := fun ha => by
        rw [ha.1] at hfits
        cases hfits
      split at h
      all_goals cases h
      all_goals exact ⟨hfault, hadmits⟩
    | ok next =>
      obtain ⟨hfits, rfl⟩ := Mark.of_pass hpass
      rw [hpass] at h
      split at h
      · obtain ⟨hfault, hrest⟩ := ih h
        exact ⟨hfault, fun ha => hrest ha.2⟩
      · obtain ⟨hfault, hrest⟩ := ih h
        exact ⟨hfault, fun ha => hrest ha.2⟩
      · cases h
      · cases h

namespace Scanner

variable {lexicon : Lexicon} {passed rest : Text} {recorded : List Diagnostic}

/-- With a collector that keeps everything, a call stops only over a count that leaves its limits in
what lies ahead. -/
theorem next_error {mark : Mark} {fault : Fault} (hp : mark.position = Text.byteLength passed)
    (h : (amid lexicon passed rest mark).next ⟨false, recorded⟩ = .error fault) :
    fault = .overflow ∧ ¬ mark.Admits rest := by
  cases hpursue : pursue lexicon .idle mark mark rest with
  | error stopped =>
    obtain ⟨rfl, hadmits⟩ := pursue_error hpursue
    rw [next_eq, amid] at h
    dsimp only at h
    rw [hpursue] at h
    exact ⟨(Except.error.inj h).symm, hadmits⟩
  | ok pursuit =>
    rcases exists_gap_of_pursue hpursue with
      ⟨hb, ha, -⟩ | ⟨gap, covered, finished, left, rfl, hb, hc, ha, -⟩
    · rw [next_of_blank hb ha] at h
      cases h
    · rw [next_of_completes hb hc hp ha] at h
      cases h

/-- What a call does to the place of the scan and to the collector. -/
structure Advances (source : Text) (scanner : Scanner) (collector : Collector)
    (answer : Option Token) (behind : Scanner) (collected : Collector) : Prop where
  /-- A token lies between the places before and behind the call, at the latter of which it ends. -/
  token : ∀ token ∈ answer, scanner.cursor.mark.position ≤ token.span.start ∧
    token.span.start < token.span.stop ∧ token.span.stop = behind.cursor.mark.position
  /-- Without a token the end of the source is reached, nothing is reported, and every number of
  further calls leaves all as it is. -/
  none : answer = none → behind.cursor.mark.position = Text.byteLength source ∧
    collected = collector ∧
    ∀ count, behind.calls count collected = .ok (List.replicate count none, behind, collected)

/-- At the end of a source every call is without an answer and changes nothing. -/
theorem calls_at_end (mark : Mark) (count : Nat) (collector : Collector) :
    (amid lexicon passed [] mark).calls count collector =
      .ok (List.replicate count none, amid lexicon passed [] mark, collector) := by
  induction count with
  | zero => rfl
  | succ count ih =>
    have hnext : (amid lexicon passed [] mark).next collector =
        .ok (none, amid lexicon passed [] mark, collector) := rfl
    rw [calls, hnext]
    dsimp only [Except.bind]
    rw [ih]
    rfl

/-- A call that is answered advances. -/
theorem advances_of_next {collector collected : Collector} {answer : Option Token}
    {behind : Scanner}
    (h : (amid lexicon passed rest (Mark.origin.afterAll passed)).next collector =
      .ok (answer, behind, collected)) :
    Advances (passed ++ rest) (amid lexicon passed rest (Mark.origin.afterAll passed)) collector
      answer behind collected := by
  rcases exists_of_next (position_behind passed) h with
    ⟨rfl, hb, ha, rfl⟩ | ⟨gap, covered, finished, left, rfl, -, hc, -, rfl, rfl⟩
  · rw [next_of_blank hb ha] at h
    cases h
    refine ⟨by simp, fun _ => ⟨?_, rfl, fun count => calls_at_end _ count collector⟩⟩
    rw [amid, ← Mark.afterAll_append]
    exact position_behind _
  · have hpos := Text.byteLength_pos hc.ne_nil
    refine ⟨?_, by simp⟩
    rintro _ ⟨⟩
    simp only [amid, Finished.token, Mark.afterAll_append, Mark.afterAll_position,
      hc.text_eq, Attempt.text, List.nil_append]
    exact ⟨Nat.le_add_right _ _, Nat.lt_add_of_pos_right hpos, trivial⟩

/-- All that a call from behind some part of a source can come to: it stops over a count, or it
leads behind more of the source, which holds a character that is no white space if there is a token,
and is all of it if there is none. -/
theorem next_outcome (lexicon : Lexicon) (passed rest : Text) (recorded : List Diagnostic) :
    ((amid lexicon passed rest (Mark.origin.afterAll passed)).next ⟨false, recorded⟩ =
        .error .overflow ∧ ¬ (Mark.origin.afterAll passed).Admits rest) ∨
      ∃ answer gone left held, rest = gone ++ left ∧
        (amid lexicon passed rest (Mark.origin.afterAll passed)).next ⟨false, recorded⟩ =
          .ok (answer, amid lexicon (passed ++ gone) left (Mark.origin.afterAll (passed ++ gone)),
            ⟨false, held⟩) ∧
        (answer = none → left = []) ∧ answer.toList.length ≤ Text.solidCount gone := by
  cases hn : (amid lexicon passed rest (Mark.origin.afterAll passed)).next ⟨false, recorded⟩ with
  | error fault =>
    obtain ⟨rfl, hadmits⟩ := next_error (position_behind passed) hn
    exact Or.inl ⟨rfl, hadmits⟩
  | ok result =>
    obtain ⟨answer, behind, collected⟩ := result
    obtain ⟨rfl, -⟩ := next_of_next hn
    rcases exists_of_next (position_behind passed) hn with
      ⟨rfl, -, -, rfl⟩ | ⟨gap, covered, finished, left, rfl, -, hc, -, rfl, rfl⟩
    · rw [← Mark.afterAll_append]
      exact Or.inr ⟨none, rest, [], _, (List.append_nil rest).symm, rfl, fun _ => rfl,
        Nat.zero_le _⟩
    · simp only [← Mark.afterAll_append]
      refine Or.inr ⟨_, gap ++ covered, left, _, (List.append_assoc _ _ _).symm, rfl, nofun, ?_⟩
      rw [Text.solidCount_append]
      exact Nat.le_add_left_of_le hc.solidCount_pos

/-- All that a number of calls can come to: they stop over a count, or they are answered with tokens
and then with none, and lead behind a part of the source that has a character other than white space
for each of the tokens. -/
theorem calls_outcome (lexicon : Lexicon) (passed rest : Text) (recorded : List Diagnostic)
    (count : Nat) :
    ((amid lexicon passed rest (Mark.origin.afterAll passed)).calls count ⟨false, recorded⟩ =
        .error .overflow ∧ ¬ (Mark.origin.afterAll passed).Admits rest) ∨
      ∃ (tokens : List Token) (gone left : Text) (held : List Diagnostic), rest = gone ++ left ∧
        (amid lexicon passed rest (Mark.origin.afterAll passed)).calls count ⟨false, recorded⟩ =
          .ok (tokens.map some ++ List.replicate (count - tokens.length) none,
            amid lexicon (passed ++ gone) left (Mark.origin.afterAll (passed ++ gone)),
            ⟨false, held⟩) ∧
        tokens.length ≤ Text.solidCount gone := by
  induction count generalizing passed rest recorded with
  | zero =>
    refine Or.inr ⟨[], [], rest, recorded, rfl, ?_, Nat.le_refl 0⟩
    rw [List.append_nil]
    rfl
  | succ count ih =>
    rw [calls]
    rcases next_outcome lexicon passed rest recorded with
      ⟨hn, hadmits⟩ | ⟨answer, gone, left, held, rfl, hn, hend, hanswer⟩
    · rw [hn]
      exact Or.inl ⟨rfl, hadmits⟩
    rw [hn]
    dsimp only [Except.bind]
    cases answer with
    | none =>
      obtain rfl := hend rfl
      rw [calls_at_end]
      exact Or.inr ⟨[], gone, [], held, rfl, rfl, Nat.zero_le _⟩
    | some token =>
      rcases ih (passed ++ gone) left held with
        ⟨hc, hadmits⟩ | ⟨tokens, more, ahead, kept, rfl, hc, hle⟩
      · rw [hc]
        refine Or.inl ⟨rfl, fun ha => hadmits ?_⟩
        rw [Mark.afterAll_append]
        exact (Mark.admits_append.mp ha).2
      · rw [hc]
        refine Or.inr ⟨token :: tokens, gone ++ more, ahead, kept,
          (List.append_assoc _ _ _).symm, ?_, ?_⟩
        · rw [List.append_assoc, List.length_cons, Nat.add_sub_add_right]
          rfl
        · rw [Text.solidCount_append, List.length_cons, Nat.add_comm]
          exact Nat.add_le_add hanswer hle

end Scanner

/-- Any number of calls on a source is answered with tokens and then with none, and there are no
more tokens than characters other than white space, unless the calls stop over a count, which takes
a source of `countLimit` characters or more. The next call is answered likewise, and whatever it
answers, it advances: a token begins where the cursor was or behind it, has a byte at least and ends
where the cursor is; without a token the cursor is at the end of the source, nothing is reported,
and no further call has a token or changes anything. -/
theorem calls_advance (lexicon : Lexicon) (source : Text) (held : List Diagnostic) (count : Nat) :
    ((Scanner.start lexicon source).calls count ⟨false, held⟩ = .error .overflow ∧
        countLimit ≤ source.length) ∨
      ∃ (tokens : List Token) (scanner : Scanner) (collector : Collector),
        (Scanner.start lexicon source).calls count ⟨false, held⟩ =
          .ok (tokens.map some ++ List.replicate (count - tokens.length) none, scanner,
            collector) ∧
        tokens.length ≤ Text.solidCount source ∧
        ((scanner.next collector = .error .overflow ∧ countLimit ≤ source.length) ∨
          ∃ answer behind collected, scanner.next collector = .ok (answer, behind, collected) ∧
            Scanner.Advances source scanner collector answer behind collected) := by
  have hstart : Scanner.start lexicon source =
      Scanner.amid lexicon [] source (Mark.origin.afterAll []) := rfl
  have hlong : ¬ Mark.origin.Admits source → countLimit ≤ source.length := fun hadmits =>
    Nat.le_of_not_lt fun hl => hadmits (Mark.hasRoom_origin hl).admits
  rw [hstart]
  rcases Scanner.calls_outcome lexicon [] source held count with
    ⟨hc, hadmits⟩ | ⟨tokens, gone, left, kept, rfl, hc, hle⟩
  · exact Or.inl ⟨hc, hlong hadmits⟩
  · refine Or.inr ⟨tokens, _, _, hc, ?_, ?_⟩
    · rw [Text.solidCount_append]
      exact Nat.le_add_right_of_le hle
    · rcases Scanner.next_outcome lexicon gone left kept with
        ⟨hn, hadmits⟩ | ⟨answer, more, ahead, found, rfl, hn, -, -⟩
      · exact Or.inl ⟨hn, hlong fun ha => hadmits (Mark.admits_append.mp ha).2⟩
      · exact Or.inr ⟨answer, _, _, hn, Scanner.advances_of_next hn⟩

end TableLexer
