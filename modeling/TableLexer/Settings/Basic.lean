import TableLexer.Command.Failure
import TableLexer.Dump.Format
import TableLexer.Lexicon.Basic
import TableLexer.Lexicon.CharClass

/-!
# Settings

What a user can set for all commands. The keywords of the settings are taken into the lexicon
only if each of them is an identifier, because the scanner looks for keywords among identifiers.
-/

namespace TableLexer

/-- What a user can set. -/
structure Settings where
  /-- Whether a log is written. -/
  verbose : Bool := false
  /-- The format of dumps. -/
  format : DumpFormat := .row
  /-- Whether malformed tokens make a command fail. -/
  denyErrors : Bool := false
  /-- Words to reserve besides the standard ones. -/
  keywords : List Text := []
  deriving DecidableEq, Repr

/-- Whether a word is an identifier: a letter or an underscore, then letters, digits and
underscores, all of them ASCII. -/
def isIdentifier : Text → Bool
  | [] => false
  | first :: rest => isWordStart first && rest.all isWordPart

/-- The lexicon that settings describe, or the first of their keywords that is no identifier. -/
def Settings.lexicon (settings : Settings) : Except Failure Lexicon :=
  match settings.keywords.find? fun word => !isIdentifier word with
  | some word => .error (.notAnIdentifier word)
  | none => .ok (Lexicon.standard.withKeywords settings.keywords)

end TableLexer
