import TableLexer.Text.Digits

/-!
# TOML strings

Strings in double quotes know escapes, strings in single quotes do not; three quotes open a
string of several lines, whose first line break is not part of it. Up to two quotes may stand
inside such a string, or directly before the three that close it.
-/

namespace TableLexer.Toml

/-- Whether the character may stand unescaped in a string or a comment. -/
def isShown (char : Char) : Bool :=
  char = '\t' || (0x20 ≤ char.toNat && char.toNat ≠ 0x7F)

/-- A line break: a line feed, perhaps behind a carriage return; the rest. -/
def readNewline : Text → Option Text
  | '\n' :: rest => some rest
  | '\r' :: '\n' :: rest => some rest
  | _ => none

/-- The rest behind blanks and tabs. -/
def skipBlanks (text : Text) : Text :=
  text.dropWhile fun char => char = ' ' || char = '\t'

/-- A character by its number in so many hexadecimal digits. -/
def readNumbered (count : Nat) (text : Text) : Option (Char × Text) :=
  let digits := text.take count
  let value := Text.digitsValue 16 digits
  if digits.length = count ∧ digits.all Text.isHexDigit ∧ value.isValidChar then
    some (Char.ofNat value, text.drop count)
  else none

/-- The character that an escape stands for; the text starts behind the backslash. -/
def readEscape : Text → Option (Char × Text)
  | 'b' :: rest => some ('\x08', rest)
  | 't' :: rest => some ('\t', rest)
  | 'n' :: rest => some ('\n', rest)
  | 'f' :: rest => some ('\x0c', rest)
  | 'r' :: rest => some ('\r', rest)
  | '"' :: rest => some ('"', rest)
  | '\\' :: rest => some ('\\', rest)
  | 'u' :: rest => readNumbered 4 rest
  | 'U' :: rest => readNumbered 8 rest
  | _ => none

/-- The rest of a string of one line up to its closing quote. The fuel bounds the number of
characters read. -/
def readLineBody (close : Char) : Nat → Text → Option (Text × Text)
  | 0, _ => none
  | _ + 1, [] => none
  | fuel + 1, char :: rest =>
    if char = close then some ([], rest)
    else if char = '\\' ∧ close = '"' then do
      let (char, rest) ← readEscape rest
      let (body, rest) ← readLineBody close fuel rest
      return (char :: body, rest)
    else if isShown char then
      (readLineBody close fuel rest).map fun (body, rest) => (char :: body, rest)
    else none

/-- The rest behind line breaks, blanks and tabs. -/
def skipLayout : Text → Text
  | ' ' :: rest => skipLayout rest
  | '\t' :: rest => skipLayout rest
  | '\n' :: rest => skipLayout rest
  | '\r' :: '\n' :: rest => skipLayout rest
  | rest => rest

/-- The rest of a string of several lines up to its closing quotes. The fuel bounds the number of
characters read. -/
def readBlockBody (close : Char) : Nat → Text → Option (Text × Text)
  | 0, _ => none
  | _ + 1, [] => none
  | fuel + 1, char :: rest =>
    if char = close then
      let run := (char :: rest).takeWhile (· = close)
      let behind := rest.drop (run.length - 1)
      if run.length < 3 then
        (readBlockBody close fuel behind).map fun (body, rest) => (run ++ body, rest)
      else if run.length ≤ 5 then some (run.drop 3, behind)
      else none
    else if char = '\\' ∧ close = '"' then
      match readNewline (skipBlanks rest) with
      | some rest => readBlockBody close fuel (skipLayout rest)
      | none => do
        let (char, rest) ← readEscape rest
        let (body, rest) ← readBlockBody close fuel rest
        return (char :: body, rest)
    else
      match readNewline (char :: rest) with
      | some rest => (readBlockBody close fuel rest).map fun (body, rest) => ('\n' :: body, rest)
      | none =>
        if isShown char then
          (readBlockBody close fuel rest).map fun (body, rest) => (char :: body, rest)
        else none

/-- A string of one line. -/
def readLineString : Text → Option (Text × Text)
  | [] => none
  | char :: rest =>
    if char = '"' ∨ char = '\'' then readLineBody char (rest.length + 1) rest else none

/-- Any string. -/
def readString : Text → Option (Text × Text)
  | first :: second :: third :: rest =>
    if (first = '"' ∨ first = '\'') ∧ second = first ∧ third = first then
      readBlockBody first (rest.length + 1) ((readNewline rest).getD rest)
    else readLineString (first :: second :: third :: rest)
  | text => readLineString text

end TableLexer.Toml
