import TableLexer.Scan.Attempt
import TableLexer.Scan.Cursor

/-!
# Pursuits

The loop behind one token: a text is fed to an attempt until a token is complete or the text
ends. Main statement: what a pursuit leaves is no longer than the text, and shorter if it
completes a token that it began.
-/

namespace TableLexer

/-- How a pursuit of one token ended. -/
structure Pursuit where
  /-- The completed attempt, unless only white space was left. -/
  finished : Option Finished
  /-- Where the attempt started. -/
  start : Mark
  /-- Where the scan goes on. -/
  mark : Mark
  /-- What is left to scan. -/
  rest : Text
  deriving DecidableEq, Repr

/-- Where an attempt started that is fed at `here`: there if no token is in progress. -/
def Attempt.startAt (attempt : Attempt) (start here : Mark) : Mark :=
  if attempt.isIdle then here else start

/-- Feed a text to an attempt that started at `start` until a token is complete. -/
def pursue (lexicon : Lexicon) : Attempt → Mark → Mark → Text → Except Fault Pursuit
  | attempt, start, here, [] => .ok ⟨attempt.finish, start, here, []⟩
  | attempt, start, here, char :: rest =>
    match attempt.step lexicon char with
    | .skip => (here.pass char).bind fun next => pursue lexicon .idle start next rest
    | .extend further =>
      (here.pass char).bind fun next =>
        pursue lexicon further (attempt.startAt start here) next rest
    | .close finished =>
      (here.pass char).map fun next => ⟨some finished, attempt.startAt start here, next, rest⟩
    | .release finished => .ok ⟨some finished, start, here, char :: rest⟩

namespace Attempt

/-- The idle attempt never releases a character. -/
theorem start_ne_release (lexicon : Lexicon) (char : Char) (finished : Finished) :
    start lexicon char ≠ .release finished := by
  unfold start
  split <;> simp

end Attempt

/-- A pursuit leaves no more than there was. -/
theorem pursue_rest_length_le {lexicon : Lexicon} {attempt : Attempt} {start here : Mark}
    {text : Text} {pursuit : Pursuit} (h : pursue lexicon attempt start here text = .ok pursuit) :
    pursuit.rest.length ≤ text.length := by
  induction text generalizing attempt start here with
  | nil =>
    obtain rfl := Except.ok.inj h
    exact Nat.le_refl _
  | cons char rest ih =>
    rw [pursue] at h
    split at h
    · obtain ⟨mark, _, h⟩ := Fault.exists_of_bind h
      exact Nat.le_succ_of_le (ih h)
    · obtain ⟨mark, _, h⟩ := Fault.exists_of_bind h
      exact Nat.le_succ_of_le (ih h)
    · obtain ⟨mark, _, rfl⟩ := Fault.exists_of_map h
      exact Nat.le_succ _
    · obtain rfl := Except.ok.inj h
      exact Nat.le_refl _

/-- A pursuit that completes a token from the idle attempt leaves less than there was. -/
theorem pursue_idle_rest_length_lt {lexicon : Lexicon} {start here : Mark} {text : Text}
    {pursuit : Pursuit} (h : pursue lexicon .idle start here text = .ok pursuit)
    (finished : pursuit.finished.isSome) :
    pursuit.rest.length < text.length := by
  induction text generalizing start here with
  | nil =>
    obtain rfl := Except.ok.inj h
    simp [Attempt.finish] at finished
  | cons char rest ih =>
    rw [pursue] at h
    split at h
    · obtain ⟨mark, _, h⟩ := Fault.exists_of_bind h
      exact Nat.lt_succ_of_lt (ih h)
    · obtain ⟨mark, _, h⟩ := Fault.exists_of_bind h
      exact Nat.lt_succ_of_le (pursue_rest_length_le h)
    · obtain ⟨mark, _, rfl⟩ := Fault.exists_of_map h
      exact Nat.lt_succ_self _
    · next released => exact absurd released (Attempt.start_ne_release lexicon char _)

end TableLexer
