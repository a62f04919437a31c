import TableLexer.Proofs.Scans

/-!
# White space inside tokens

White space separates tokens, but string literals and comments hold it, and so does what the end of
the input cuts off. An attempt confines white space if only such a text holds any, and a line
comment no line feed. Main statements: `Completes.confines`, by which all that the idle attempt
completes does so, whatever the nesting depth, and what follows from it for malformed tokens and
for tokens with a line feed in them.
-/

namespace TableLexer

/-- White space is held only where it may be. -/
def Attempt.Confines : Attempt → Prop
  | .idle | .string _ _ => True
  | .identifier text | .number text _ | .operator text =>
    ∀ char ∈ text, Text.isBlank char = false
  | .lineComment text => '\n' ∉ text
  | .blockComment text _ _ => ['/', '*'] <+: text

/-- White space is held only where it may be, with a rest ahead. -/
def Finished.Confines (finished : Finished) (rest : Text) : Prop :=
  match finished.category with
  | .string => True
  | .comment => '\n' ∉ finished.text ∨ ['/', '*'] <+: finished.text
  | .unterminatedString | .unterminatedComment => rest = []
  | .identifier | .number | .punctuation | .operator | .unrecognized =>
    ∀ char ∈ finished.text, Text.isBlank char = false

namespace Attempt

variable {lexicon : Lexicon} {attempt further : Attempt} {char : Char} {finished : Finished}

/-- A further character that is no white space brings none in. -/
theorem forall_concat {text : Text} (h : ∀ other ∈ text, Text.isBlank other = false)
    (hc : Text.isBlank char = false) : ∀ other ∈ text ++ [char], Text.isBlank other = false := by
  intro other hm
  rcases List.mem_append.mp hm with hm | hm
  · exact h other hm
  · rw [List.mem_singleton.mp hm]
    exact hc

/-- A token does not start with white space. -/
theorem confines_of_start (lexicon : Lexicon) (char : Char) (rest : Text) :
    match start lexicon char with
    | .extend further => further.Confines
    | .close finished => finished.Confines rest
    | .skip | .release _ => True := by
  rw [start, Lexicon.charClass]
  cases hb : Text.isBlank char with
  | true => exact trivial
  | false =>
    have hone : ∀ other ∈ [char], Text.isBlank other = false := by simpa using hb
    rw [if_neg Bool.false_ne_true]
    split_ifs with hdigit hword hquote hslash hpunctuation hoperator
    · exact hone
    · exact hone
    · exact trivial
    · exact hone
    · exact hone
    · exact hone
    · exact hone

/-- White space is still confined behind a further character. -/
theorem Confines.extend (ha : attempt.Confines) (h : attempt.step lexicon char = .extend further) :
    further.Confines := by
  cases attempt with
  | idle =>
    have hs := confines_of_start lexicon char []
    rw [step] at h
    rwa [h] at hs
  | identifier text =>
    rw [step, stepIdentifier] at h
    split_ifs at h with hw
    cases h
    exact forall_concat ha (CharClass.isBlank_eq_false_of_isWordPart hw)
  | number text fraction =>
    rw [step, stepNumber] at h
    split_ifs at h with hd hp
    · cases h
      have hw := CharClass.isWordPart_iff.mpr (Or.inl hd)
      exact forall_concat ha (CharClass.isBlank_eq_false_of_isWordPart hw)
    · cases h
      have hpoint : Text.isBlank char = false := by
        rw [hp.1]
        decide
      exact forall_concat ha hpoint
  | operator text =>
    rw [step, stepOperator] at h
    split_ifs at h with hl hb he
    · cases h
      obtain ⟨rfl, rfl⟩ := hl
      have hslashes : '\n' ∉ ['/', '/'] := by decide
      exact hslashes
    · cases h
      obtain ⟨rfl, rfl⟩ := hb
      exact List.prefix_rfl
    · cases h
      have hd := CharClass.delimits_eq_false_of_extendsOperator he
      refine forall_concat ha ?_
      rw [← Bool.not_eq_true]
      intro hblank
      rw [CharClass.delimits_of_isBlank lexicon hblank] at hd
      cases hd
  | string text escaped =>
    rw [step, stepString] at h
    split_ifs at h <;> cases h <;> trivial
  | lineComment text =>
    rw [step, stepLineComment] at h
    split_ifs at h with hn
    cases h
    have hne : '\n' ≠ char := fun he => hn (Or.inl he.symm)
    have hnone : '\n' ∉ text := ha
    simp [Confines, hnone, hne]
  | blockComment text depth pending =>
    have hopen : ['/', '*'] <+: text ++ [char] := List.IsPrefix.trans ha (List.prefix_append _ _)
    rw [step, stepBlockComment] at h
    split_ifs at h <;> cases h <;> exact hopen

/-- White space is confined to what a character closes. -/
theorem Confines.close (ha : attempt.Confines) (h : attempt.step lexicon char = .close finished)
    (rest : Text) : finished.Confines rest := by
  cases attempt with
  | idle =>
    have hs := confines_of_start lexicon char rest
    rw [step] at h
    rwa [h] at hs
  | identifier text | number text fraction | operator text | lineComment text =>
    exact absurd (mayRelease_eq_false_of_close h).symm Bool.false_ne_true
  | string text escaped =>
    rw [step, stepString] at h
    split_ifs at h
    cases h
    trivial
  | blockComment text depth pending =>
    have hopen : ['/', '*'] <+: text ++ [char] := List.IsPrefix.trans ha (List.prefix_append _ _)
    rw [step, stepBlockComment] at h
    split_ifs at h
    cases h
    exact Or.inr hopen

/-- White space is confined to what the end of the input finishes. -/
theorem Confines.finish (ha : attempt.Confines) (h : attempt.finish = some finished) :
    finished.Confines [] := by
  cases attempt with
  | idle => cases h
  | lineComment text =>
    cases h
    exact Or.inl ha
  | identifier text | number text fraction | operator text =>
    cases h
    exact ha
  | string text escaped | blockComment text depth pending =>
    cases h
    rfl

/-- White space is confined to what a character ends: neither string literals nor block comments
end so. -/
theorem Confines.release (ha : attempt.Confines) (h : attempt.step lexicon char = .release finished)
    (rest : Text) : finished.Confines rest := by
  have hf := ha.finish (finish_of_release h)
  cases attempt with
  | idle | string text escaped | blockComment text depth pending =>
    exact absurd (mayRelease_of_release h) Bool.false_ne_true
  | identifier text | number text fraction | operator text | lineComment text =>
    cases finish_of_release h
    exact hf

/-- White space is confined to what an attempt completes that confined it before. -/
theorem Completes.confines {covered rest : Text}
    (h : attempt.Completes lexicon covered finished rest)
    (ha : attempt.Confines) : finished.Confines rest := by
  induction h with
  | closed h => exact ha.close h _
  | released h => exact ha.release h _
  | ended h => exact ha.finish h
  | extended h _ ih => exact ih (ha.extend h)

/-- A malformed token that is not cut off by the end of the input holds no white space. -/
theorem Completes.not_blank_of_malformed {covered rest : Text} {lexicon : Lexicon}
    {cause : Malformation} (h : idle.Completes lexicon covered finished rest)
    (hk : lexicon.kindOf finished.text finished.category = .malformed cause) :
    rest = [] ∨ ∀ char ∈ covered, Text.isBlank char = false := by
  have ht : finished.text = covered := h.text_eq
  have hf := h.confines trivial
  obtain ⟨category, text⟩ := finished
  obtain rfl : text = covered := ht
  cases category with
  | string | comment => cases hk
  | unterminatedString | unterminatedComment => exact Or.inl hf
  | identifier | number | punctuation | operator | unrecognized => exact Or.inr hf

/-- Only string literals and block comments go on behind a line feed, or would if the input did
not end. -/
theorem Completes.kind_of_feed {covered rest : Text}
    (h : idle.Completes lexicon covered finished rest)
    (lexicon : Lexicon) (hf : '\n' ∈ covered) :
    lexicon.kindOf finished.text finished.category = .string ∨
      (lexicon.kindOf finished.text finished.category = .comment ∧ ['/', '*'] <+: covered) ∨
      lexicon.kindOf finished.text finished.category = .malformed .unterminatedString ∨
      lexicon.kindOf finished.text finished.category = .malformed .unterminatedComment := by
  have ht : finished.text = covered := h.text_eq
  have hc := h.confines trivial
  have hblank : Text.isBlank '\n' = true := by decide
  obtain ⟨category, text⟩ := finished
  obtain rfl : text = covered := ht
  cases category with
  | string => exact Or.inl rfl
  | comment =>
    have hopen : '\n' ∉ text ∨ ['/', '*'] <+: text := hc
    exact Or.inr (Or.inl ⟨rfl, hopen.resolve_left fun hn => hn hf⟩)
  | unterminatedString => exact Or.inr (Or.inr (Or.inl rfl))
  | unterminatedComment => exact Or.inr (Or.inr (Or.inr rfl))
  | identifier | number | punctuation | operator | unrecognized =>
    have hnone : ∀ char ∈ text, Text.isBlank char = false := hc
    rw [hnone _ hf] at hblank
    cases hblank

end Attempt

end TableLexer
