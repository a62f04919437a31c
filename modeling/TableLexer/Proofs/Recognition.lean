import TableLexer.Proofs.Lexemes
import TableLexer.Proofs.Places
import TableLexer.Scan.Pursuit

/-!
# Recognition of one token

What it means that an attempt takes a text and is finished by it, without places and limits. A
finished attempt holds exactly the text that it took; a lexeme comes out if nesting can be
counted; what lies further ahead than the next character has no influence. A pursuit finds what
is recognised, wherever there is room for its counts.
-/

namespace TableLexer

open Grammar

namespace Attempt

/-- An attempt takes a text and is finished there, with a rest ahead. -/
inductive Completes (lexicon : Lexicon) : Attempt → Text → Finished → Text → Prop
  /-- The last character of the text closes it. -/
  | closed {attempt : Attempt} {char : Char} {finished : Finished} {rest : Text}
      (h : attempt.step lexicon char = .close finished) :
      Completes lexicon attempt [char] finished rest
  /-- It releases the next character. -/
  | released {attempt : Attempt} {char : Char} {finished : Finished} {rest : Text}
      (h : attempt.step lexicon char = .release finished) :
      Completes lexicon attempt [] finished (char :: rest)
  /-- The input ends. -/
  | ended {attempt : Attempt} {finished : Finished} (h : attempt.finish = some finished) :
      Completes lexicon attempt [] finished []
  /-- It goes on with the next character. -/
  | extended {attempt further : Attempt} {char : Char} {covered : Text} {finished : Finished}
      {rest : Text} (h : attempt.step lexicon char = .extend further)
      (hc : Completes lexicon further covered finished rest) :
      Completes lexicon attempt (char :: covered) finished rest

variable {lexicon : Lexicon} {attempt : Attempt} {covered rest : Text} {finished : Finished}
  {char : Char}

/-- A finished attempt holds the text from before and the text that it took. -/
theorem Completes.text_eq (h : attempt.Completes lexicon covered finished rest) :
    finished.text = attempt.text ++ covered := by
  induction h with
  | closed h => exact text_of_close h
  | released h => rw [text_of_finish (finish_of_release h), List.append_nil]
  | ended h => rw [text_of_finish h, List.append_nil]
  | extended h _ ih => rw [ih, text_of_extend h, List.append_assoc, List.singleton_append]

/-- A token has at least one character. -/
theorem Completes.ne_nil (h : idle.Completes lexicon covered finished rest) : covered ≠ [] := by
  cases h with
  | closed h => exact List.cons_ne_nil _ _
  | released h => exact absurd h (start_ne_release _ _ _)
  | ended h => cases h
  | extended h hc => exact List.cons_ne_nil _ _

/-- An attempt that fits is finished as a lexeme, and the next character does not belong to
it. -/
theorem Completes.isLexeme (h : attempt.Completes lexicon covered finished rest) (hf : attempt.Fits)
    (hl : attempt.text.length + covered.length ≤ nestingLimit) :
    finished.IsLexeme lexicon ∧ ∀ next ∈ rest.head?, finished.EndsAt next := by
  induction h with
  | closed h =>
    exact ⟨(hf.isLexeme_of_close h).1, fun next _ => (hf.isLexeme_of_close h).2 next⟩
  | released h =>
    refine ⟨hf.isLexeme_of_finish (finish_of_release h), ?_⟩
    rintro _ ⟨⟩
    exact hf.endsAt_of_release h
  | ended h => exact ⟨hf.isLexeme_of_finish h, by simp⟩
  | extended h _ ih =>
    rw [List.length_cons] at hl
    refine ih (hf.extend (by omega) h) ?_
    rw [text_of_extend h, List.length_append, List.length_singleton]
    omega

/-- Only the next character has an influence. -/
theorem Completes.of_cons {front : Char}
    (h : attempt.Completes lexicon covered finished (front :: rest)) (other : Text) :
    attempt.Completes lexicon covered finished (front :: other) := by
  generalize hr : front :: rest = whole at h
  induction h with
  | closed h => exact .closed h
  | released h =>
    obtain ⟨rfl, -⟩ := List.cons.inj hr
    exact .released h
  | ended h => cases hr
  | extended h _ ih => exact .extended h (ih hr)

/-- The end of the input finishes whatever a further character would have finished. -/
theorem Completes.of_nil (h : attempt.Completes lexicon covered finished rest) :
    attempt.Completes lexicon covered finished [] := by
  induction h with
  | closed h => exact .closed h
  | released h => exact .ended (finish_of_release h)
  | ended h => exact .ended h
  | extended h _ ih => exact .extended h ih

/-- A character at which a finished attempt stops may replace all that lies ahead. -/
theorem Completes.of_stops (h : attempt.Completes lexicon covered finished rest) (hf : attempt.Fits)
    (hl : attempt.text.length + covered.length ≤ nestingLimit) (hs : finished.Stops lexicon char)
    (other : Text) : attempt.Completes lexicon covered finished (char :: other) := by
  induction h with
  | closed h => exact .closed h
  | released h => exact .released (hf.release_of_stops (finish_of_release h) hs)
  | ended h => exact .released (hf.release_of_stops h hs)
  | extended h _ ih =>
    rw [List.length_cons] at hl
    refine .extended h (ih (hf.extend (by omega) h) ?_ hs)
    rw [text_of_extend h, List.length_append, List.length_singleton]
    omega

/-- What the idle attempt completes is a lexeme, and the next character does not belong to it. -/
theorem Completes.isLexeme_of_idle (h : idle.Completes lexicon covered finished rest)
    (hl : covered.length ≤ nestingLimit) :
    finished.IsLexeme lexicon ∧ ∀ next ∈ rest.head?, finished.EndsAt next := by
  refine h.isLexeme trivial ?_
  rwa [text, List.length_nil, Nat.zero_add]

/-- What the idle attempt completes is not changed by a character at which it stops. -/
theorem Completes.of_stops_of_idle (h : idle.Completes lexicon covered finished rest)
    (hl : covered.length ≤ nestingLimit) (hs : finished.Stops lexicon char) (other : Text) :
    idle.Completes lexicon covered finished (char :: other) := by
  refine h.of_stops trivial ?_ hs other
  rwa [text, List.length_nil, Nat.zero_add]

/-- A token does not begin with white space. -/
theorem Completes.isBlank_eq_false (h : idle.Completes lexicon (char :: covered) finished rest) :
    Text.isBlank char = false := by
  rw [← Bool.not_eq_true]
  intro hb
  have hs : idle.step lexicon char = .skip := step_eq_skip_iff.mpr ⟨rfl, hb⟩
  cases h with
  | closed h =>
    rw [hs] at h
    cases h
  | extended h _ =>
    rw [hs] at h
    cases h

/-- Every attempt in progress takes some part of every text. -/
theorem exists_completes (lexicon : Lexicon) (hn : attempt ≠ idle) (text : Text) :
    ∃ covered finished rest, text = covered ++ rest ∧
      attempt.Completes lexicon covered finished rest := by
  induction text generalizing attempt with
  | nil =>
    obtain ⟨finished, hf⟩ := exists_finish hn
    exact ⟨[], finished, [], rfl, .ended hf⟩
  | cons char rest ih =>
    cases hs : attempt.step lexicon char with
    | skip => exact absurd (step_eq_skip_iff.mp hs).1 hn
    | extend further =>
      obtain ⟨covered, finished, left, rfl, hc⟩ := ih (ne_idle_of_extend hs)
      exact ⟨char :: covered, finished, left, rfl, .extended hs hc⟩
    | close finished => exact ⟨[char], finished, rest, rfl, .closed hs⟩
    | release finished => exact ⟨[], finished, char :: rest, rfl, .released hs⟩

/-- A character other than white space begins a token. -/
theorem exists_completes_idle (lexicon : Lexicon) (hb : Text.isBlank char = false) (rest : Text) :
    ∃ covered finished left, char :: rest = covered ++ left ∧
      idle.Completes lexicon covered finished left := by
  cases hs : idle.step lexicon char with
  | skip => exact absurd (step_eq_skip_iff.mp hs).2 (by simp [hb])
  | extend further =>
    obtain ⟨covered, finished, left, rfl, hc⟩ :=
      exists_completes lexicon (ne_idle_of_extend hs) rest
    exact ⟨char :: covered, finished, left, rfl, .extended hs hc⟩
  | close finished => exact ⟨[char], finished, rest, rfl, .closed hs⟩
  | release finished => exact absurd hs (start_ne_release _ _ _)

/-- The start of an attempt in progress is remembered. -/
theorem startAt_of_ne_idle (hn : attempt ≠ idle) (start here : Mark) :
    attempt.startAt start here = start := by
  cases attempt with
  | idle => exact absurd rfl hn
  | _ => rfl

/-- An attempt that ends before a character is in progress. -/
theorem ne_idle_of_finish (h : attempt.finish = some finished) : attempt ≠ idle := by
  rintro rfl
  cases h

/-- A pursuit finds what is recognised. -/
theorem Completes.pursue_eq (h : attempt.Completes lexicon covered finished rest) (start : Mark)
    {here : Mark} (hr : here.Admits covered) :
    pursue lexicon attempt start here (covered ++ rest) =
      .ok ⟨some finished, attempt.startAt start here, here.afterAll covered, rest⟩ := by
  induction h generalizing start here with
  | closed h =>
    rw [List.singleton_append, pursue, h, hr.pass]
    rfl
  | released h =>
    rw [List.nil_append, pursue, h, startAt_of_ne_idle (ne_idle_of_finish (finish_of_release h))]
    rfl
  | ended h =>
    rw [List.nil_append, pursue, h, startAt_of_ne_idle (ne_idle_of_finish h)]
    rfl
  | @extended attempt further char covered _ _ h _ ih =>
    rw [List.cons_append, pursue, h, hr.pass]
    have hn := ih (attempt.startAt start here) hr.2
    rw [startAt_of_ne_idle (ne_idle_of_extend h)] at hn
    exact hn

end Attempt

/-- White space is passed before a pursuit begins. -/
theorem pursue_blank (lexicon : Lexicon) {gap : Text}
    (hb : ∀ char ∈ gap, Text.isBlank char = true) (start : Mark) {here : Mark}
    (hr : here.Admits gap) (rest : Text) :
    pursue lexicon .idle start here (gap ++ rest) =
      pursue lexicon .idle start (here.afterAll gap) rest := by
  induction gap generalizing here with
  | nil => rfl
  | cons char more ih =>
    have hs : Attempt.idle.step lexicon char = .skip :=
      Attempt.step_eq_skip_iff.mpr ⟨rfl, hb char List.mem_cons_self⟩
    rw [List.cons_append, pursue, hs, hr.pass]
    exact ih (fun other hm => hb other (List.mem_cons_of_mem _ hm)) hr.2

end TableLexer
