import TableLexer.Text.Basic

/-!
# JSON values and their written form

The values that a dump consists of, and the form in which they are written: two blanks of
indentation for each level, one member or item a line, and no line break in an empty array or
object. A string escapes quotes, backslashes and control characters and nothing else.
-/

namespace TableLexer

/-- A JSON value. The members of an object keep their order. -/
inductive Json where
  /-- A number without sign and fraction. -/
  | number (value : Nat)
  /-- A string. -/
  | text (value : Text)
  /-- An array. -/
  | array (items : List Json)
  /-- An object. -/
  | object (members : List (Text × Json))
  deriving Repr

namespace Json

/-- One character of a string. -/
def escapeChar (char : Char) : Text :=
  match char with
  | '"' => "\\\"".toList
  | '\\' => "\\\\".toList
  | '\x08' => "\\b".toList
  | '\x0c' => "\\f".toList
  | '\n' => "\\n".toList
  | '\r' => "\\r".toList
  | '\t' => "\\t".toList
  | other =>
    if other.toNat < 0x20 then
      "\\u00".toList ++ (Nat.toDigits 16 other.toNat).leftpad 2 '0'
    else [other]

/-- A string in quotes. -/
def quoted (text : Text) : Text :=
  ['"'] ++ text.flatMap escapeChar ++ ['"']

/-- A line break and the indentation of a level. -/
def newlineAt (level : Nat) : Text :=
  '\n' :: List.replicate (2 * level) ' '

mutual

/-- A value that stands at an indentation level. -/
def pretty (level : Nat) : Json → Text
  | number value => Text.decimal value
  | text value => quoted value
  | array [] => "[]".toList
  | array (first :: more) =>
    ['['] ++ newlineAt (level + 1) ++ pretty (level + 1) first ++ prettyItems (level + 1) more ++
      newlineAt level ++ [']']
  | object [] => "\x7b\x7d".toList
  | object ((key, first) :: more) =>
    ['\x7b'] ++ newlineAt (level + 1) ++ quoted key ++ ": ".toList ++ pretty (level + 1) first ++
      prettyMembers (level + 1) more ++ newlineAt level ++ ['\x7d']

/-- The items behind the first one. -/
def prettyItems (level : Nat) : List Json → Text
  | [] => []
  | item :: more => [','] ++ newlineAt level ++ pretty level item ++ prettyItems level more

/-- The members behind the first one. -/
def prettyMembers (level : Nat) : List (Text × Json) → Text
  | [] => []
  | (key, value) :: more =>
    [','] ++ newlineAt level ++ quoted key ++ ": ".toList ++ pretty level value ++
      prettyMembers level more

end

/-- A value on its own. -/
def write (value : Json) : Text := pretty 0 value

end Json

end TableLexer
