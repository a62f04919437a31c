import TableLexer.Proofs.Families
import TableLexer.Proofs.Tables
import TableLexer.Scan.Attempt
import Mathlib.Tactic.SplitIfs

/-!
# What attempts know

One character neither loses text nor adds any, and an attempt that a character releases is the
one that the end of the input would have finished. An attempt fits if its text is a lexeme so
far and its marks are those of the text. Main statements: `step_conserves`, and `Fits.extend`, by
which an attempt still fits behind a further character as long as the nesting depth can be
counted.
-/

namespace TableLexer

open Grammar

namespace Attempt

/-- What one character does to the text of an attempt: nothing is lost and nothing added. -/
theorem step_conserves (lexicon : Lexicon) (attempt : Attempt) (char : Char) :
    match attempt.step lexicon char with
    | .skip => attempt = idle ∧ Text.isBlank char = true
    | .extend further => further ≠ idle ∧ further.text = attempt.text ++ [char]
    | .close finished => finished.text = attempt.text ++ [char]
    | .release finished => attempt.finish = some finished := by
  cases attempt with
  | idle =>
    simp only [step, start, Lexicon.charClass]
    split_ifs with hb <;> simp [hb, text]
  | identifier covered =>
    simp only [step, stepIdentifier]
    split_ifs <;> simp [text, finish]
  | number covered fraction =>
    simp only [step, stepNumber]
    split_ifs <;> simp [text, finish]
  | operator covered =>
    simp only [step, stepOperator]
    split_ifs <;> simp [text, finish]
  | string covered escaped =>
    simp only [step, stepString]
    split_ifs <;> simp [text]
  | lineComment covered =>
    simp only [step, stepLineComment]
    split_ifs <;> simp [text, finish]
  | blockComment covered depth pending =>
    simp only [step, stepBlockComment]
    split_ifs <;> simp [text]

variable {lexicon : Lexicon} {attempt further : Attempt} {char : Char} {finished : Finished}

theorem text_of_extend (h : attempt.step lexicon char = .extend further) :
    further.text = attempt.text ++ [char] := by
  have hs := step_conserves lexicon attempt char
  rw [h] at hs
  exact hs.2

theorem ne_idle_of_extend (h : attempt.step lexicon char = .extend further) : further ≠ idle := by
  have hs := step_conserves lexicon attempt char
  rw [h] at hs
  exact hs.1

theorem text_of_close (h : attempt.step lexicon char = .close finished) :
    finished.text = attempt.text ++ [char] := by
  have hs := step_conserves lexicon attempt char
  rw [h] at hs
  exact hs

/-- A released attempt is finished as the end of the input would finish it. -/
theorem finish_of_release (h : attempt.step lexicon char = .release finished) :
    attempt.finish = some finished := by
  have hs := step_conserves lexicon attempt char
  rw [h] at hs
  exact hs

/-- The attempts that can end before a character: neither string literals nor block comments, and
not the idle attempt. -/
def mayRelease : Attempt → Bool
  | identifier _ | number _ _ | operator _ | lineComment _ => true
  | idle | string _ _ | blockComment _ _ _ => false

/-- No other attempt releases a character. -/
theorem mayRelease_of_release (h : attempt.step lexicon char = .release finished) :
    attempt.mayRelease = true := by
  cases attempt with
  | idle =>
    rw [step, start] at h
    split at h <;> cases h
  | string covered escaped =>
    rw [step, stepString] at h
    split_ifs at h
  | blockComment covered depth pending =>
    rw [step, stepBlockComment] at h
    split_ifs at h
  | identifier covered | number covered fraction | operator covered | lineComment covered => rfl

/-- An attempt that can end before a character is not completed by one. -/
theorem mayRelease_eq_false_of_close (h : attempt.step lexicon char = .close finished) :
    attempt.mayRelease = false := by
  cases attempt with
  | identifier covered =>
    rw [step, stepIdentifier] at h
    split_ifs at h
  | number covered fraction =>
    rw [step, stepNumber] at h
    split_ifs at h
  | operator covered =>
    rw [step, stepOperator] at h
    split_ifs at h
  | lineComment covered =>
    rw [step, stepLineComment] at h
    split_ifs at h
  | idle | string covered escaped | blockComment covered depth pending => rfl

theorem text_of_finish (h : attempt.finish = some finished) : finished.text = attempt.text := by
  cases attempt <;> cases h <;> rfl

/-- Only the idle attempt drops characters, and only white space. -/
theorem step_eq_skip_iff :
    attempt.step lexicon char = .skip ↔ attempt = idle ∧ Text.isBlank char = true := by
  constructor
  · intro h
    have hs := step_conserves lexicon attempt char
    rw [h] at hs
    exact hs
  · rintro ⟨rfl, hb⟩
    rw [step, start, Lexicon.charClass, if_pos hb]

/-- Every attempt but the idle one is finished by the end of the input. -/
theorem exists_finish (h : attempt ≠ idle) : ∃ finished, attempt.finish = some finished := by
  cases attempt with
  | idle => exact absurd rfl h
  | _ => exact ⟨_, rfl⟩

/-- The text is a lexeme so far, and the marks are those of the text. -/
def Fits : Attempt → Prop
  | idle => True
  | identifier text => isWord text = true
  | number text fraction => isNumeral text = true ∧ (fraction = true ↔ '.' ∈ text)
  | operator text => text ≠ [] ∧ Spelling.beginsOperator text = true
  | string text escaped => ∃ body, isLiteralBody body = true ∧
      text = '"' :: (if escaped then body ++ ['\\'] else body)
  | lineComment text => isLineComment text = true
  | blockComment text depth pending => ['/', '*'] <+: text ∧ balance text = depth ∧
      unpaired text = pending ∧
      ∀ part, part <+: text → ['/', '*'] <+: part → 0 < balance part

/-- What a character starts where no token is in progress fits. -/
theorem fits_of_start (h : start lexicon char = .extend further) : further.Fits := by
  rw [start, Lexicon.charClass] at h
  split_ifs at h with hb hd hw hq hs hp ho <;> cases h
  · exact ⟨by simp [isNumeral, isNumeralTail, hd], by
      simp only [Bool.false_eq_true, List.mem_singleton, false_iff]
      rintro rfl
      exact absurd hd (by decide)⟩
  · simp [Fits, isWord, hw]
  · exact ⟨[], rfl, by rw [hq]; rfl⟩
  · exact ⟨List.cons_ne_nil _ _, by rw [hs]; decide⟩
  · exact ⟨List.cons_ne_nil _ _, by rwa [← lexicon.beginsOperator_eq]⟩

theorem Fits.extend_number {covered : Text} {fraction : Bool} (hf : (number covered fraction).Fits)
    (h : stepNumber covered fraction char = .extend further) : further.Fits := by
  obtain ⟨hn, hp⟩ := hf
  rw [stepNumber] at h
  split_ifs at h with hd hc
  · cases h
    have hc : '.' ≠ char := by
      rintro rfl
      exact absurd hd (by decide)
    refine ⟨?_, by simp [hp, hc]⟩
    rw [isNumeral_append hn]
    split <;> simp [isNumeralTail, hd]
  · cases h
    obtain ⟨rfl, rfl⟩ := hc
    have hm : '.' ∉ covered := fun hm => Bool.false_ne_true (hp.mpr hm)
    refine ⟨?_, by simp⟩
    rw [isNumeral_append hn, if_neg hm]
    rfl

theorem Fits.extend_operator {covered : Text} (hf : (operator covered).Fits)
    (h : stepOperator lexicon covered char = .extend further) : further.Fits := by
  rw [stepOperator] at h
  split_ifs at h with hl hb he
  · cases h
    obtain ⟨rfl, rfl⟩ := hl
    rfl
  · cases h
    obtain ⟨rfl, rfl⟩ := hb
    refine ⟨List.prefix_rfl, rfl, rfl, ?_⟩
    intro part hp ho
    rw [List.IsPrefix.eq_of_length_le hp ho.length_le]
    decide
  · cases h
    exact ⟨by simp, by rwa [← lexicon.extendsOperator_eq]⟩

theorem Fits.extend_string {covered : Text} {escaped : Bool} (hf : (string covered escaped).Fits)
    (h : stepString covered escaped char = .extend further) : further.Fits := by
  obtain ⟨body, hb, rfl⟩ := hf
  rw [stepString] at h
  split_ifs at h with he hs hq
  · cases h
    refine ⟨body ++ ['\\', char], ?_, by simp⟩
    rw [isLiteralBody_append hb]
    rfl
  · cases h
    exact ⟨body, hb, by simp [hs]⟩
  · cases h
    refine ⟨body ++ [char], ?_, by simp⟩
    rw [isLiteralBody_append hb]
    simp [isLiteralBody, hs, hq]

/-- A further character inside a block comment: the depth has to stay the balance, which has to
stay positive. -/
theorem Fits.concat_blockComment {covered : Text} {depth next : Nat} {pending : Option Char}
    (hf : (blockComment covered depth pending).Fits) (hb : balance (covered ++ [char]) = next)
    (hn : 0 < next) :
    (blockComment (covered ++ [char]) next (unpaired (covered ++ [char]))).Fits := by
  obtain ⟨ho, -, -, hall⟩ := hf
  refine ⟨ho.trans (List.prefix_append _ _), hb, rfl, ?_⟩
  intro part hp hop
  rcases List.prefix_concat_iff.mp hp with rfl | hp
  · omega
  · exact hall part hp hop

theorem Fits.extend_blockComment {covered : Text} {depth : Nat} {pending : Option Char}
    (hf : (blockComment covered depth pending).Fits) (hl : covered.length < nestingLimit)
    (h : stepBlockComment covered depth pending char = .extend further) : further.Fits := by
  have hc : ∀ next : Nat, balance (covered ++ [char]) = next → 0 < next →
      (blockComment (covered ++ [char]) next (unpaired (covered ++ [char]))).Fits :=
    fun next hb hn => hf.concat_blockComment hb hn
  obtain ⟨ho, hb, hu, hall⟩ := hf
  have hpos := hall covered List.prefix_rfl ho
  have hle := balance_le_length covered
  rw [balance_concat, unpaired_concat, hu] at hc
  rw [stepBlockComment] at h
  by_cases hclose : pending = some '*' ∧ char = '/'
  · rw [if_pos hclose, if_pos (Or.inl hclose)] at hc
    rw [if_pos hclose] at h
    split_ifs at h with hd
    cases h
    exact hc (depth - 1) (by omega) (by omega)
  rw [if_neg hclose] at h hc
  by_cases hopen : pending = some '/' ∧ char = '*'
  · rw [if_pos hopen, if_pos (Or.inr hopen)] at hc
    rw [if_pos hopen] at h
    cases h
    rw [Nat.min_eq_left (by omega)]
    exact hc (depth + 1) (by omega) (by omega)
  rw [if_neg hopen, if_neg (not_or.mpr ⟨hclose, hopen⟩)] at hc
  rw [if_neg hopen] at h
  split_ifs at h hc with hs
  · cases h
    exact hc depth hb (by omega)
  · cases h
    exact hc depth hb (by omega)

/-- An attempt that fits still does so behind a further character, if the nesting depth can be
counted. -/
theorem Fits.extend (hf : attempt.Fits) (hl : attempt.text.length < nestingLimit)
    (h : attempt.step lexicon char = .extend further) : further.Fits := by
  cases attempt with
  | idle => exact fits_of_start h
  | identifier covered =>
    rw [step, stepIdentifier] at h
    split_ifs at h with hw
    cases h
    rw [Fits, isWord_append hf]
    simp [hw]
  | number covered fraction => exact hf.extend_number h
  | operator covered => exact hf.extend_operator h
  | string covered escaped => exact hf.extend_string h
  | lineComment covered =>
    rw [step, stepLineComment] at h
    split_ifs at h with hn
    cases h
    rw [Fits, isLineComment_append hf]
    simpa [endsLine] using hn
  | blockComment covered depth pending => exact hf.extend_blockComment hl h

end Attempt

end TableLexer
