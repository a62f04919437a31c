import TableLexer.Proofs.Attempts
import TableLexer.Scan.Pursuit
import Mathlib.Algebra.Ring.Parity

/-!
# Attempts that can be reached

An attempt carries marks beside its text: whether a number has its fraction, whether the next
character of a string literal is escaped, which character may pair inside a comment. An attempt is
well formed if the text is one of its family and the marks say what can be read off the text. Main
statement: whatever is fed to the idle attempt, every attempt on the way is well formed, however
long the text and however deep the comments.
-/

namespace TableLexer

/-- Number of backslashes at the end of a text. -/
def Text.trailingBackslashes (text : Text) : Nat :=
  (text.reverse.takeWhile fun char => char == '\\').length

/-- A further backslash makes the run at the end longer, and every other character ends it. -/
theorem Text.trailingBackslashes_concat (text : Text) (char : Char) :
    trailingBackslashes (text ++ [char]) =
      if char = '\\' then trailingBackslashes text + 1 else 0 := by
  by_cases hc : char = '\\'
  · simp [trailingBackslashes, hc]
  · simp [trailingBackslashes, hc]

namespace Attempt

/-- A number in progress. -/
structure NumberForm (text : Text) (fraction : Bool) : Prop where
  /-- It starts with a digit. -/
  digit : ∃ first rest, text = first :: rest ∧ first.isDigit = true
  /-- It holds digits and points. -/
  holds : ∀ char ∈ text, char.isDigit = true ∨ char = '.'
  /-- It holds one point at most. -/
  points : text.count '.' ≤ 1
  /-- It has a fraction exactly if it holds a point. -/
  fraction_iff : fraction = true ↔ '.' ∈ text

/-- A string literal in progress. -/
structure StringForm (text : Text) (escaped : Bool) : Prop where
  /-- It starts with a quote. -/
  quote : ∃ rest, text = '"' :: rest
  /-- Every later quote is escaped: an odd number of backslashes stands right before it. -/
  escapes : ∀ before after, text = before ++ '"' :: after → before ≠ [] →
    Odd (Text.trailingBackslashes before)
  /-- The next character is escaped exactly if an odd number of backslashes stands before it. -/
  escaped_iff : escaped = true ↔ Odd (Text.trailingBackslashes text)

/-- A block comment in progress. -/
structure CommentForm (text : Text) (depth : Nat) (pending : Option Char) : Prop where
  /-- It starts with an opener. -/
  opener : ['/', '*'] <+: text
  /-- One comment at least is open. -/
  depth_pos : 1 ≤ depth
  /-- No more comments are open than can be counted. -/
  depth_le : depth ≤ nestingLimit
  /-- What may pair with the next character is a slash or a star, and the last character. -/
  pending_last : ∀ char ∈ pending, (char = '/' ∨ char = '*') ∧ text.getLast? = some char

/-- The text is one of the family, and the marks are those of the text. -/
def IsWellFormed : Attempt → Prop
  | idle => True
  | identifier text => Grammar.isWord text = true
  | number text fraction => NumberForm text fraction
  | operator text => text ≠ [] ∧ ∃ spelling ∈ Spelling.operators, text <+: spelling
  | string text escaped => StringForm text escaped
  | lineComment text => ['/', '/'] <+: text ∧ '\n' ∉ text ∧ '\r' ∉ text
  | blockComment text depth pending => CommentForm text depth pending

variable {lexicon : Lexicon} {attempt next : Attempt} {text : Text} {char : Char}

/-- What the idle attempt starts is well formed. -/
theorem isWellFormed_of_start (h : start lexicon char = .extend next) : next.IsWellFormed := by
  rw [start, Lexicon.charClass] at h
  split_ifs at h with hblank hdigit hword hquote hslash hpunctuation hoperator <;> cases h
  · have hpoint : '.' ≠ char := by
      rintro rfl
      exact absurd hdigit (by decide)
    exact ⟨⟨char, [], rfl, hdigit⟩, by simp [hdigit], by simp [hpoint.symm], by simp [hpoint]⟩
  · simp [IsWellFormed, Grammar.isWord, hword]
  · subst hquote
    refine ⟨⟨[], rfl⟩, fun before after he hne => ?_, by decide⟩
    cases before with
    | nil => exact absurd rfl hne
    | cons first others => simp at he
  · exact ⟨List.cons_ne_nil _ _, Spelling.beginsOperator_iff.mp (by rw [hslash]; decide)⟩
  · exact ⟨List.cons_ne_nil _ _,
      Spelling.beginsOperator_iff.mp (by rwa [← lexicon.beginsOperator_eq])⟩

/-- A further digit keeps the form of a number. -/
theorem NumberForm.concat_digit {fraction : Bool} (hf : NumberForm text fraction)
    (hd : char.isDigit = true) : NumberForm (text ++ [char]) fraction := by
  obtain ⟨⟨first, rest, rfl, hfirst⟩, hholds, hpoints, hfraction⟩ := hf
  have hpoint : '.' ≠ char := by
    rintro rfl
    exact absurd hd (by decide)
  refine ⟨⟨first, rest ++ [char], rfl, hfirst⟩, ?_, ?_, ?_⟩
  · exact List.forall_mem_append.mpr ⟨hholds, by simp [hd]⟩
  · rw [List.count_append, List.count_singleton, if_neg (by simp [hpoint.symm])]
    exact hpoints
  · rw [hfraction, List.mem_append, List.mem_singleton, or_iff_left hpoint]

/-- A first point starts the fraction. -/
theorem NumberForm.concat_point (hf : NumberForm text false) :
    NumberForm (text ++ ['.']) true := by
  obtain ⟨⟨first, rest, rfl, hfirst⟩, hholds, -, hfraction⟩ := hf
  have hnone : '.' ∉ first :: rest := fun hm => Bool.false_ne_true (hfraction.mpr hm)
  refine ⟨⟨first, rest ++ ['.'], rfl, hfirst⟩, ?_, ?_, by simp⟩
  · exact List.forall_mem_append.mpr ⟨hholds, by simp⟩
  · rw [List.count_append, List.count_eq_zero_of_not_mem hnone]
    decide

/-- A string literal goes on behind a quote only if that is escaped, and the character behind an
unescaped backslash is escaped. -/
theorem eq_of_extend_string {escaped : Bool} (h : stepString text escaped char = .extend next) :
    next = string (text ++ [char]) (!escaped && char == '\\') ∧
      (char = '"' → escaped = true) := by
  rw [stepString] at h
  split_ifs at h with hescaped hbackslash hquote
  · cases h
    simp [hescaped]
  · cases h
    simp [hescaped, hbackslash]
  · cases h
    simp [hescaped, hbackslash, hquote]

/-- A further character keeps the form of a string literal, if a quote is escaped; it is escaped
itself if the run of backslashes before it was odd. -/
theorem StringForm.concat {escaped : Bool} (hf : StringForm text escaped)
    (hq : char = '"' → escaped = true) :
    StringForm (text ++ [char]) (!escaped && char == '\\') := by
  obtain ⟨⟨rest, rfl⟩, hescapes, hescaped⟩ := hf
  refine ⟨⟨rest ++ [char], rfl⟩, fun before after he hne => ?_, ?_⟩
  · rcases List.eq_nil_or_concat after with rfl | ⟨others, last, rfl⟩
    · obtain ⟨hbefore, hchar⟩ := List.append_inj' he rfl
      rw [← hbefore]
      exact hescaped.mp (hq (List.cons.inj hchar).1)
    · rw [List.concat_eq_append, ← List.cons_append, ← List.append_assoc] at he
      exact hescapes before others (List.append_inj' he rfl).1 hne
  · rw [Text.trailingBackslashes_concat]
    by_cases hc : char = '\\'
    · cases escaped with
      | true => simp [hc, Nat.odd_add_one, ← hescaped]
      | false => simp [hc, Nat.odd_add_one, ← hescaped]
    · simp [hc]

/-- A well-formed attempt is so behind a further character that belongs to it. -/
theorem IsWellFormed.extend (ha : attempt.IsWellFormed)
    (h : attempt.step lexicon char = .extend next) :
    next.IsWellFormed := by
  cases attempt with
  | idle => exact isWellFormed_of_start h
  | identifier covered =>
    rw [step, stepIdentifier] at h
    split_ifs at h with hpart
    cases h
    rw [IsWellFormed, Grammar.isWord_append ha]
    simp [hpart]
  | number covered fraction =>
    rw [step, stepNumber] at h
    split_ifs at h with hdigit hpoint
    · cases h
      exact NumberForm.concat_digit ha hdigit
    · cases h
      obtain ⟨rfl, rfl⟩ := hpoint
      exact NumberForm.concat_point ha
  | operator covered =>
    rw [step, stepOperator] at h
    split_ifs at h with hslash hstar hgrows
    · cases h
      obtain ⟨rfl, rfl⟩ := hslash
      exact ⟨List.prefix_rfl, by decide, by decide⟩
    · cases h
      obtain ⟨rfl, rfl⟩ := hstar
      exact ⟨List.prefix_rfl, Nat.le_refl 1, by decide, by simp⟩
    · cases h
      exact ⟨by simp, Spelling.beginsOperator_iff.mp (by rwa [← lexicon.extendsOperator_eq])⟩
  | string covered escaped =>
    obtain ⟨rfl, hquote⟩ := eq_of_extend_string h
    exact StringForm.concat ha hquote
  | lineComment covered =>
    obtain ⟨hslashes, hfeed, hreturn⟩ := ha
    rw [step, stepLineComment] at h
    split_ifs at h with hends
    cases h
    rw [not_or] at hends
    exact ⟨hslashes.trans (List.prefix_append _ _), by simp [hfeed, Ne.symm hends.1],
      by simp [hreturn, Ne.symm hends.2]⟩
  | blockComment covered depth pending =>
    obtain ⟨hopener, hpos, hle, -⟩ := ha
    have hgrown : ['/', '*'] <+: covered ++ [char] := hopener.trans (List.prefix_append _ _)
    have hlimit : 1 ≤ nestingLimit := by decide
    rw [step, stepBlockComment] at h
    split_ifs at h with hcloser hone hpair hsign
    · cases h
      exact ⟨hgrown, by omega, by omega, by simp⟩
    · cases h
      exact ⟨hgrown, by omega, by omega, by simp⟩
    · cases h
      exact ⟨hgrown, hpos, hle, by simpa [or_comm] using hsign⟩
    · cases h
      exact ⟨hgrown, hpos, hle, by simp⟩

/-- The idle attempt has no text and no marks. -/
theorem isWellFormed_idle : idle.IsWellFormed := trivial

/-- Whatever becomes of a character, the attempt behind it is well formed. -/
theorem IsWellFormed.behind_step (ha : attempt.IsWellFormed) (lexicon : Lexicon) (char : Char) :
    (behind (attempt.step lexicon char)).IsWellFormed := by
  cases hm : attempt.step lexicon char with
  | extend next => exact ha.extend hm
  | skip | close finished | release finished => trivial

/-- Every move of a character leads from a well-formed attempt to one that is so. -/
theorem IsWellFormed.behind_moves (ha : attempt.IsWellFormed) (lexicon : Lexicon) (char : Char) :
    ∀ move ∈ attempt.moves lexicon char, (behind move).IsWellFormed := by
  have hstep := ha.behind_step lexicon char
  have hidle := isWellFormed_idle.behind_step lexicon char
  rw [moves]
  cases hm : attempt.step lexicon char with
  | release finished => exact List.forall_mem_cons.mpr ⟨trivial, by simpa using hidle⟩
  | skip | extend next | close finished => simpa [hm] using hstep

/-- Behind a character that is fed once more if it is released, the attempt is well formed. -/
theorem IsWellFormed.advance (ha : attempt.IsWellFormed) (lexicon : Lexicon) (char : Char) :
    (attempt.advance lexicon char).IsWellFormed := by
  rw [Attempt.advance]
  cases hm : attempt.step lexicon char with
  | release finished => exact isWellFormed_idle.behind_step lexicon char
  | skip | extend next | close finished => simpa [hm] using ha.behind_step lexicon char

/-- Every attempt that a text leads to from a well-formed one is well formed. -/
theorem IsWellFormed.behind_trace (ha : attempt.IsWellFormed) (lexicon : Lexicon) (text : Text) :
    ∀ fed ∈ attempt.trace lexicon text, (behind fed.2).IsWellFormed := by
  induction text generalizing attempt with
  | nil => simp [trace]
  | cons char rest ih =>
    rw [trace]
    refine List.forall_mem_append.mpr ⟨?_, ih (ha.advance lexicon char)⟩
    simpa using ha.behind_moves lexicon char

/-- The attempt behind a text that is fed to a well-formed one is well formed. -/
theorem IsWellFormed.advanceAll (ha : attempt.IsWellFormed) (lexicon : Lexicon) (text : Text) :
    (attempt.advanceAll lexicon text).IsWellFormed := by
  induction text generalizing attempt with
  | nil => exact ha
  | cons char rest ih => exact ih (ha.advance lexicon char)

end Attempt

/-- Every attempt that the idle one comes to, whatever text is fed to it, is well formed, and so is
every attempt on the way, behind each single move. -/
theorem reached_attempts_wellFormed (lexicon : Lexicon) (text : Text) :
    (Attempt.idle.advanceAll lexicon text).IsWellFormed ∧
      ∀ fed ∈ Attempt.idle.trace lexicon text, (Attempt.behind fed.2).IsWellFormed :=
  ⟨Attempt.isWellFormed_idle.advanceAll lexicon text,
    Attempt.isWellFormed_idle.behind_trace lexicon text⟩

/-- A text that leads to a string literal with three backslashes at its end, by way of a number with
its point. -/
theorem reached_attempts_wellFormed_escaped :
    Attempt.idle.advanceAll .standard "7.=\"\\\\\\".toList = .string "\"\\\\\\".toList true ∧
      (Attempt.string "\"\\\\\\".toList true).IsWellFormed ∧
      ('.', .extend (.number "7.".toList true)) ∈
        Attempt.idle.trace .standard "7.=\"\\\\\\".toList ∧
      (Attempt.number "7.".toList true).IsWellFormed := by
  obtain ⟨hlast, hway⟩ := reached_attempts_wellFormed .standard "7.=\"\\\\\\".toList
  have heq : Attempt.idle.advanceAll .standard "7.=\"\\\\\\".toList =
      .string "\"\\\\\\".toList true := by decide +kernel
  have hmem : ('.', .extend (.number "7.".toList true)) ∈
      Attempt.idle.trace .standard "7.=\"\\\\\\".toList := by decide +kernel
  rw [heq] at hlast
  exact ⟨heq, hlast, hmem, hway _ hmem⟩

end TableLexer
