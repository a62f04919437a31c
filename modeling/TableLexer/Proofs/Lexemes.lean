import TableLexer.Proofs.Attempts
import Mathlib.Tactic.Tauto

/-!
# Finished lexemes

What is known of a finished attempt apart from the way to it: its text is a lexeme of its
category, and what follows does not make it longer. White space, punctuation and characters that
start nothing end every attempt that does not absorb them.
-/

namespace TableLexer

open Grammar

namespace CharClass

/-- White space, punctuation and characters that start nothing. -/
def delimits : CharClass → Bool
  | blank | punctuation | other => true
  | digit | wordStart | quote | slash | operatorStart => false

/-- The codes of digits. -/
theorem toNat_of_isDigit {char : Char} (h : char.isDigit = true) :
    48 ≤ char.toNat ∧ char.toNat ≤ 57 := by
  delta Char.isDigit at h
  simp only [Bool.and_eq_true, decide_eq_true_eq, UInt32.le_iff_toNat_le, ge_iff_le] at h
  exact h

/-- The codes of letters and of the underscore. -/
theorem toNat_of_isWordStart {char : Char} (h : isWordStart char = true) :
    (65 ≤ char.toNat ∧ char.toNat ≤ 90) ∨ (97 ≤ char.toNat ∧ char.toNat ≤ 122) ∨
      char.toNat = 95 := by
  delta isWordStart Char.isAlpha Char.isUpper Char.isLower at h
  simp only [Bool.or_eq_true, Bool.and_eq_true, decide_eq_true_eq, beq_iff_eq,
    UInt32.le_iff_toNat_le, ge_iff_le] at h
  rcases h with (hu | hl) | rfl
  · exact Or.inl hu
  · exact Or.inr (Or.inl hl)
  · exact Or.inr (Or.inr rfl)

/-- Digits are no letters. -/
theorem isWordStart_eq_false_of_isDigit {char : Char} (h : char.isDigit = true) :
    isWordStart char = false := by
  have hd := toNat_of_isDigit h
  rw [← Bool.not_eq_true]
  intro hw
  have hs := toNat_of_isWordStart hw
  omega

/-- Words are made of digits and of characters that words start with. -/
theorem isWordPart_iff {char : Char} :
    isWordPart char = true ↔ char.isDigit = true ∨ isWordStart char = true := by
  simp only [isWordPart, isWordStart, Char.isAlphanum, Bool.or_eq_true]
  tauto

/-- Words hold no white space. -/
theorem isBlank_eq_false_of_isWordPart {char : Char} (h : isWordPart char = true) :
    Text.isBlank char = false := by
  have hr : 48 ≤ char.toNat ∧ char.toNat ≤ 122 := by
    rcases isWordPart_iff.mp h with hd | hw
    · have hd := toNat_of_isDigit hd
      omega
    · have hs := toNat_of_isWordStart hw
      omega
  simp only [Text.isBlank, Text.CharRange.covers, Text.blankRanges, List.any_cons, List.any_nil,
    Bool.or_eq_false_iff, Bool.and_eq_false_iff, decide_eq_false_iff_not, and_true]
  omega

/-- A character that words may hold delimits nothing. -/
theorem delimits_eq_false_of_isWordPart (lexicon : Lexicon) {char : Char}
    (h : isWordPart char = true) : (lexicon.charClass char).delimits = false := by
  have hb := isBlank_eq_false_of_isWordPart h
  rw [Lexicon.charClass, hb, if_neg Bool.false_ne_true]
  by_cases hd : char.isDigit = true
  · rw [if_pos hd]
    rfl
  · rw [if_neg hd, if_pos ((isWordPart_iff.mp h).resolve_left hd)]
    rfl

/-- A character that operators may hold delimits nothing. -/
theorem delimits_eq_false_of_extendsOperator {lexicon : Lexicon} {text : Text} {char : Char}
    (h : lexicon.extendsOperator text char = true) :
    (lexicon.charClass char).delimits = false := by
  have hall : (Spelling.operators.all fun operator =>
      operator.all fun part => !(Lexicon.standard.charClass part).delimits) = true := by decide
  rw [List.all_eq_true] at hall
  rw [lexicon.extendsOperator_eq] at h
  obtain ⟨operator, ho, hp⟩ := Spelling.beginsOperator_iff.mp h
  have hm : char ∈ operator := hp.subset (by simp)
  have hd := List.all_eq_true.mp (hall operator ho) char hm
  rwa [lexicon.charClass_eq, ← Bool.not_eq_true']

/-- White space delimits. -/
theorem delimits_of_isBlank (lexicon : Lexicon) {char : Char} (h : Text.isBlank char = true) :
    (lexicon.charClass char).delimits = true := by
  rw [Lexicon.charClass, if_pos h]
  rfl

end CharClass

namespace Finished

/-- The text is a lexeme of the category. What ends at its own last character has no shorter
prefix that does. -/
def IsLexeme (lexicon : Lexicon) : Finished → Prop
  | ⟨.identifier, text⟩ => isWord text = true
  | ⟨.number, text⟩ => isNumeral text = true
  | ⟨.string, text⟩ => isLiteral text = true
  | ⟨.comment, text⟩ => isLineComment text = true ∨ isBlockComment text = true ∧
      ∀ part, part <+: text.dropLast → isBlockComment part = false
  | ⟨.punctuation, text⟩ => ∃ char, text = [char] ∧ lexicon.charClass char = .punctuation
  | ⟨.operator, text⟩ => text ≠ [] ∧ Spelling.beginsOperator text = true
  | ⟨.unrecognized, text⟩ => ∃ char, text = [char] ∧ lexicon.charClass char = .other
  | ⟨.unterminatedString, text⟩ => ∃ body, isLiteralBody body = true ∧
      (text = '"' :: body ∨ text = '"' :: (body ++ ['\\']))
  | ⟨.unterminatedComment, text⟩ => ['/', '*'] <+: text ∧
      ∀ part, part <+: text → isBlockComment part = false

/-- The character, being the next one, does not belong to the lexeme. Only the end of the input
cuts a lexeme off. -/
def EndsAt : Finished → Char → Prop
  | ⟨.identifier, text⟩, char => isWord (text ++ [char]) = false
  | ⟨.number, text⟩, char => isNumeral (text ++ [char]) = false
  | ⟨.comment, text⟩, char => isLineComment (text ++ [char]) = false
  | ⟨.operator, text⟩, char => Spelling.beginsOperator (text ++ [char]) = false ∧
      ¬ (text = ['/'] ∧ (char = '/' ∨ char = '*'))
  | ⟨.string, _⟩, _ | ⟨.punctuation, _⟩, _ | ⟨.unrecognized, _⟩, _ => True
  | ⟨.unterminatedString, _⟩, _ | ⟨.unterminatedComment, _⟩, _ => False

end Finished

namespace Attempt

variable {lexicon : Lexicon} {attempt : Attempt} {char : Char} {finished : Finished}

/-- Inside a block comment no prefix is closed. -/
theorem Fits.isBlockComment_eq_false {covered : Text} {depth : Nat} {pending : Option Char}
    (hf : (blockComment covered depth pending).Fits) :
    ∀ part, part <+: covered → isBlockComment part = false := by
  intro part hp
  by_cases ho : ['/', '*'] <+: part
  · have hpos := hf.2.2.2 part hp ho
    have hz : ¬ balance part = 0 := by omega
    simp [isBlockComment, hz]
  · rw [← List.isPrefixOf_iff_prefix] at ho
    simp [isBlockComment, ho]

/-- The end of the input finishes a lexeme. -/
theorem Fits.isLexeme_of_finish (hf : attempt.Fits) (h : attempt.finish = some finished) :
    finished.IsLexeme lexicon := by
  cases attempt with
  | idle => cases h
  | identifier covered => cases h; exact hf
  | number covered fraction => cases h; exact hf.1
  | operator covered => cases h; exact hf
  | lineComment covered => cases h; exact Or.inl hf
  | string covered escaped =>
    cases h
    obtain ⟨body, hb, rfl⟩ := hf
    cases escaped with
    | false => exact ⟨body, hb, Or.inl rfl⟩
    | true => exact ⟨body, hb, Or.inr rfl⟩
  | blockComment covered depth pending =>
    cases h
    exact ⟨hf.1, hf.isBlockComment_eq_false⟩

/-- A closing quote completes a string literal. -/
theorem Fits.isLexeme_of_close_string {covered : Text} {escaped : Bool}
    (hf : (string covered escaped).Fits)
    (h : stepString covered escaped char = .close finished) :
    finished.IsLexeme lexicon ∧ finished.category = .string := by
  obtain ⟨body, hb, rfl⟩ := hf
  rw [stepString] at h
  split_ifs at h with he hs hq
  cases h
  refine ⟨isLiteral_iff.mpr ⟨body, ?_, hb⟩, rfl⟩
  simp [hq]

/-- The slash of the last closer completes a block comment, which is no line comment. -/
theorem Fits.isLexeme_of_close_blockComment {covered : Text} {depth : Nat}
    {pending : Option Char} (hf : (blockComment covered depth pending).Fits)
    (h : stepBlockComment covered depth pending char = .close finished) :
    finished.IsLexeme lexicon ∧ finished.category = .comment ∧ ['/', '*'] <+: finished.text := by
  have hpart := hf.isBlockComment_eq_false
  obtain ⟨ho, hb, hu, hall⟩ := hf
  have hpos := hall covered List.prefix_rfl ho
  rw [stepBlockComment] at h
  split_ifs at h with hc hd
  cases h
  have ho' : ['/', '*'] <+: covered ++ [char] := ho.trans (List.prefix_append _ _)
  have hz : balance (covered ++ [char]) = 0 := by
    rw [balance_concat, if_pos (by rwa [hu])]
    omega
  refine ⟨Or.inr ⟨?_, ?_⟩, rfl, ho'⟩
  · rw [isBlockComment, List.isPrefixOf_iff_prefix.mpr ho', hz]
    rfl
  · rwa [List.dropLast_concat]

/-- A character that closes an attempt completes a lexeme, which ends there whatever comes
next. -/
theorem Fits.isLexeme_of_close (hf : attempt.Fits)
    (h : attempt.step lexicon char = .close finished) :
    finished.IsLexeme lexicon ∧ ∀ next, finished.EndsAt next := by
  cases attempt with
  | idle =>
    rw [step, start] at h
    split at h
    all_goals try cases h
    · next hc => exact ⟨⟨char, rfl, hc⟩, fun _ => trivial⟩
    · next hc => exact ⟨⟨char, rfl, hc⟩, fun _ => trivial⟩
  | identifier covered | number covered fraction | operator covered | lineComment covered =>
    exact absurd (mayRelease_eq_false_of_close h).symm Bool.false_ne_true
  | string covered escaped =>
    obtain ⟨hl, hc⟩ := hf.isLexeme_of_close_string h
    obtain ⟨category, text⟩ := finished
    obtain rfl : category = .string := hc
    exact ⟨hl, fun _ => trivial⟩
  | blockComment covered depth pending =>
    obtain ⟨hl, hc, ho⟩ := hf.isLexeme_of_close_blockComment h
    obtain ⟨category, text⟩ := finished
    obtain rfl : category = .comment := hc
    obtain ⟨body, rfl⟩ : ['/', '*'] <+: text := ho
    exact ⟨hl, fun _ => rfl⟩

/-- A character that an attempt releases does not belong to its lexeme. -/
theorem Fits.endsAt_of_release (hf : attempt.Fits)
    (h : attempt.step lexicon char = .release finished) : finished.EndsAt char := by
  cases attempt with
  | idle | string covered escaped | blockComment covered depth pending =>
    exact absurd (mayRelease_of_release h) Bool.false_ne_true
  | identifier covered =>
    rw [step, stepIdentifier] at h
    split_ifs at h with hw
    cases h
    rw [Finished.EndsAt, isWord_append hf]
    simp [hw]
  | number covered fraction =>
    obtain ⟨hn, hp⟩ := hf
    rw [step, stepNumber] at h
    split_ifs at h with hd hc
    cases h
    rw [Finished.EndsAt, isNumeral_append hn]
    split
    · simp [hd]
    · next hm =>
      have hc' : char ≠ '.' := fun he => hc ⟨he, by rwa [← hp, Bool.not_eq_true] at hm⟩
      simp [isNumeralTail, hd, hc']
  | operator covered =>
    rw [step, stepOperator] at h
    split_ifs at h with hl hb he
    cases h
    refine ⟨by simpa [lexicon.extendsOperator_eq] using he, ?_⟩
    rintro ⟨ht, rfl | rfl⟩
    · exact hl ⟨ht, rfl⟩
    · exact hb ⟨ht, rfl⟩
  | lineComment covered =>
    rw [step, stepLineComment] at h
    split_ifs at h with hn
    cases h
    rw [Finished.EndsAt, isLineComment_append hf]
    simp [endsLine_iff.mpr hn]

end Attempt

/-- A character at which a finished attempt stops, whatever follows: it delimits, the attempt was
not cut off by the end of the input, and a line comment stops at the end of its line only. -/
structure Finished.Stops (lexicon : Lexicon) (finished : Finished) (char : Char) : Prop where
  /-- No token but comments and string literals can hold it. -/
  delimits : (lexicon.charClass char).delimits = true
  /-- The attempt was no string literal that is still open. -/
  string : finished.category ≠ .unterminatedString
  /-- The attempt was no block comment that is still open. -/
  comment : finished.category ≠ .unterminatedComment
  /-- A line comment holds every other character. -/
  line : finished.category = .comment → ['/', '/'] <+: finished.text → endsLine char = true

/-- A string literal or a block comment that lacks its end. -/
def Finished.IsOpen (finished : Finished) : Prop :=
  finished.category = .unterminatedString ∨ finished.category = .unterminatedComment

/-- A delimiting character releases what the end of the input would finish, but for string literals
and comments; a line comment is released by an end of line. -/
theorem Attempt.release_of_delimits {lexicon : Lexicon} {attempt : Attempt} {finished : Finished}
    {char : Char}
    (h : attempt.finish = some finished) (hd : (lexicon.charClass char).delimits = true)
    (hopen : ¬ finished.IsOpen) (hline : finished.category = .comment → endsLine char = true) :
    attempt.step lexicon char = .release finished := by
  have hne : ∀ part, (Lexicon.standard.charClass part).delimits = false → char ≠ part := by
    rintro part hp rfl
    rw [lexicon.charClass_eq, hp] at hd
    cases hd
  have hw : isWordPart char ≠ true := fun hw =>
    Bool.false_ne_true ((CharClass.delimits_eq_false_of_isWordPart lexicon hw).symm.trans hd)
  cases attempt with
  | idle => cases h
  | identifier covered =>
    cases h
    rw [step, stepIdentifier, if_neg hw]
  | number covered fraction =>
    cases h
    have hn : char.isDigit ≠ true := fun hn => hw (by simp [isWordPart, Char.isAlphanum, hn])
    rw [step, stepNumber, if_neg hn, if_neg fun hc => hne '.' (by decide) hc.1]
  | operator covered =>
    cases h
    have he : lexicon.extendsOperator covered char ≠ true := fun he =>
      Bool.false_ne_true ((CharClass.delimits_eq_false_of_extendsOperator he).symm.trans hd)
    rw [step, stepOperator, if_neg fun hc => hne '/' (by decide) hc.2,
      if_neg fun hc => hne '*' (by decide) hc.2, if_neg he]
  | string covered escaped =>
    cases h
    exact absurd (Or.inl rfl) hopen
  | lineComment covered =>
    cases h
    rw [step, stepLineComment, if_pos (endsLine_iff.mp (hline rfl))]
  | blockComment covered depth pending =>
    cases h
    exact absurd (Or.inr rfl) hopen

/-- What fits and becomes a comment at the end of the input is a line comment. -/
theorem Attempt.Fits.slashes_prefix {attempt : Attempt} {finished : Finished} (hf : attempt.Fits)
    (h : attempt.finish = some finished) (hc : finished.category = .comment) :
    ['/', '/'] <+: finished.text := by
  cases attempt with
  | lineComment covered =>
    cases h
    rw [Fits] at hf
    unfold isLineComment at hf
    split at hf
    · exact ⟨_, rfl⟩
    · cases hf
  | _ => cases h <;> cases hc

/-- An attempt that the end of the input finishes stops in the same way at a character. -/
theorem Attempt.Fits.release_of_stops {lexicon : Lexicon} {attempt : Attempt} {finished : Finished}
    {char : Char}
    (hf : attempt.Fits) (h : attempt.finish = some finished) (hs : finished.Stops lexicon char) :
    attempt.step lexicon char = .release finished := by
  obtain ⟨hd, hstring, hcomment, hline⟩ := hs
  exact release_of_delimits h hd (not_or.mpr ⟨hstring, hcomment⟩)
    fun hc => hline hc (hf.slashes_prefix h hc)

end TableLexer
