import TableLexer.Text.Basic
import TableLexer.Text.Printable
import TableLexer.Text.Combining

/-!
# Texts inside messages

A message that shows a piece of the input keeps to one line and to visible characters: quotes,
the backslash and the common control characters are written with a backslash, and every other
character that would not show is written by its number.
-/

namespace TableLexer.Text

/-- A character written by its number in lower-case hexadecimal. -/
def numbered (char : Char) : Text :=
  "\\u\x7b".toList ++ Nat.toDigits 16 char.toNat ++ "\x7d".toList

/-- One character of a message. -/
def quoteChar (char : Char) : Text :=
  match char with
  | '\x00' => "\\0".toList
  | '\t' => "\\t".toList
  | '\r' => "\\r".toList
  | '\n' => "\\n".toList
  | '\\' => "\\\\".toList
  | '"' => "\\\"".toList
  | '\'' => "\\'".toList
  | other => if isPrintable other then [other] else numbered other

/-- A text as a message shows it. A combining character at its start is written by its number,
so that it does not attach itself to what precedes the text. -/
def quote : Text → Text
  | [] => []
  | first :: rest =>
    (if isCombining first then numbered first else quoteChar first) ++ rest.flatMap quoteChar

end TableLexer.Text
