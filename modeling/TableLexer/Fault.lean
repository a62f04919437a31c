import TableLexer.Diagnostic.Basic
import TableLexer.Token.Kind

/-!
# Faults

The ways in which a computation leaves what its definition provides for: a counter passes its
greatest value, a cut falls outside a text, or a promise between two parts is broken. A fault
ends the computation; it is not a finding about the input.
-/

namespace TableLexer

/-- Why a computation stopped without an answer. -/
inductive Fault where
  /-- A counter would pass its greatest value. -/
  | overflow
  /-- A byte range is reversed, outside its text or cuts a character. -/
  | badSlice
  /-- The text collected for a token is not the text of its range. -/
  | lexemeMismatch
  /-- An empty lexeme was to be classified. -/
  | emptyLexeme (category : Category)
  /-- A diagnostic was reported where none was to be expected. -/
  | unexpected (diagnostic : Diagnostic)
  /-- A row of an excerpt would be longer than any text can be. -/
  | rowTooLong
  deriving DecidableEq, Repr

namespace Fault

/-- The wording of a fault. -/
def message : Fault → Text
  | .overflow => "attempt to add with overflow".toList
  | .badSlice => "byte range outside the text".toList
  | .lexemeMismatch => "lexeme differs from its range".toList
  | .emptyLexeme category => "empty lexeme for ".toList ++ category.name
  | .unexpected diagnostic => "unexpected ".toList ++ diagnostic.summary
  | .rowTooLong => "capacity overflow".toList

/-- Two computations in a row have an answer if the first has one and the second has one from
there. -/
theorem exists_of_bind {first : Except Fault α} {second : α → Except Fault β} {result : β}
    (h : first.bind second = .ok result) :
    ∃ middle, first = .ok middle ∧ second middle = .ok result := by
  cases first with
  | error fault => cases h
  | ok middle => exact ⟨middle, rfl, h⟩

/-- An answer that was changed was there before. -/
theorem exists_of_map {first : Except Fault α} {change : α → β} {result : β}
    (h : first.map change = .ok result) :
    ∃ middle, first = .ok middle ∧ change middle = result := by
  cases first with
  | error fault => cases h
  | ok middle => exact ⟨middle, rfl, Except.ok.inj h⟩

end Fault

end TableLexer
