import TableLexer.Lexicon.CharClass

/-!
# Token attempts

The machine behind the scanner. An attempt is what is known of the token in progress; it is fed
one character at a time. The character either belongs to the attempt, completes it, or ends it
without belonging to it, in which case it is offered again to the idle attempt. Comments nest.
-/

namespace TableLexer

/-- The greatest nesting depth that is counted; deeper comments count as this deep. -/
def nestingLimit : Nat := UInt32.size - 1

/-- The token in progress, with all of its text so far. -/
inductive Attempt where
  /-- No token is in progress. -/
  | idle
  /-- Inside an identifier or a keyword. -/
  | identifier (text : Text)
  /-- Inside a number, with a fraction once its point is there. -/
  | number (text : Text) (fraction : Bool)
  /-- Inside an operator. -/
  | operator (text : Text)
  /-- Inside a string literal, `escaped` right behind a backslash that escapes. -/
  | string (text : Text) (escaped : Bool)
  /-- Inside a line comment. -/
  | lineComment (text : Text)
  /-- Inside so many open block comments, with the character that may pair with the next one. -/
  | blockComment (text : Text) (depth : Nat) (pending : Option Char)
  deriving DecidableEq, Repr

/-- A completed attempt. -/
structure Finished where
  /-- The family of the token. -/
  category : Category
  /-- All of its text, delimiters included. -/
  text : Text
  deriving DecidableEq, Repr

/-- What becomes of a character. -/
inductive Move where
  /-- It is dropped. -/
  | skip
  /-- It belongs to the attempt, which goes on. -/
  | extend (next : Attempt)
  /-- It belongs to the attempt and completes it. -/
  | close (finished : Finished)
  /-- It ends the attempt without belonging to it. -/
  | release (finished : Finished)
  deriving DecidableEq, Repr

namespace Attempt

/-- Whether no token is in progress. -/
def isIdle : Attempt → Bool
  | idle => true
  | _ => false

/-- The text so far. -/
def text : Attempt → Text
  | idle => []
  | identifier text | number text _ | operator text | string text _ | lineComment text
  | blockComment text _ _ => text

/-- A character where no token is in progress. -/
def start (lexicon : Lexicon) (char : Char) : Move :=
  match lexicon.charClass char with
  | .blank => .skip
  | .digit => .extend (number [char] false)
  | .wordStart => .extend (identifier [char])
  | .quote => .extend (string [char] false)
  | .slash | .operatorStart => .extend (operator [char])
  | .punctuation => .close ⟨.punctuation, [char]⟩
  | .other => .close ⟨.unrecognized, [char]⟩

/-- A character behind an identifier. -/
def stepIdentifier (text : Text) (char : Char) : Move :=
  if isWordPart char then .extend (identifier (text ++ [char]))
  else .release ⟨.identifier, text⟩

/-- A character behind a number. The first point starts the fraction. -/
def stepNumber (text : Text) (fraction : Bool) (char : Char) : Move :=
  if char.isDigit then .extend (number (text ++ [char]) fraction)
  else if char = '.' ∧ fraction = false then .extend (number (text ++ [char]) true)
  else .release ⟨.number, text⟩

/-- A character behind an operator. A slash may turn out to open a comment. -/
def stepOperator (lexicon : Lexicon) (text : Text) (char : Char) : Move :=
  if text = ['/'] ∧ char = '/' then .extend (lineComment (text ++ [char]))
  else if text = ['/'] ∧ char = '*' then .extend (blockComment (text ++ [char]) 1 none)
  else if lexicon.extendsOperator text char then .extend (operator (text ++ [char]))
  else .release ⟨.operator, text⟩

/-- A character inside a string literal. A backslash takes the next character with it. -/
def stepString (text : Text) (escaped : Bool) (char : Char) : Move :=
  if escaped then .extend (string (text ++ [char]) false)
  else if char = '\\' then .extend (string (text ++ [char]) true)
  else if char = '"' then .close ⟨.string, text ++ [char]⟩
  else .extend (string (text ++ [char]) false)

/-- A character inside a line comment. Both line feed and carriage return end it. -/
def stepLineComment (text : Text) (char : Char) : Move :=
  if char = '\n' ∨ char = '\r' then .release ⟨.comment, text⟩
  else .extend (lineComment (text ++ [char]))

/-- A character inside a block comment. A character that has paired pairs with no other. -/
def stepBlockComment (text : Text) (depth : Nat) (pending : Option Char) (char : Char) : Move :=
  if pending = some '*' ∧ char = '/' then
    if depth ≤ 1 then .close ⟨.comment, text ++ [char]⟩
    else .extend (blockComment (text ++ [char]) (depth - 1) none)
  else if pending = some '/' ∧ char = '*' then
    .extend (blockComment (text ++ [char]) (min (depth + 1) nestingLimit) none)
  else if char = '*' ∨ char = '/' then
    .extend (blockComment (text ++ [char]) depth (some char))
  else .extend (blockComment (text ++ [char]) depth none)

/-- One character fed to an attempt. -/
def step (lexicon : Lexicon) : Attempt → Char → Move
  | idle, char => start lexicon char
  | identifier text, char => stepIdentifier text char
  | number text fraction, char => stepNumber text fraction char
  | operator text, char => stepOperator lexicon text char
  | string text escaped, char => stepString text escaped char
  | lineComment text, char => stepLineComment text char
  | blockComment text depth pending, char => stepBlockComment text depth pending char

/-- The attempt behind a move. -/
def behind : Move → Attempt
  | .extend next => next
  | .skip | .close _ | .release _ => idle

/-- The moves of one character: a character that was released is fed once more, to the idle
attempt. -/
def moves (lexicon : Lexicon) (attempt : Attempt) (char : Char) : List Move :=
  match attempt.step lexicon char with
  | .release finished => [.release finished, idle.step lexicon char]
  | move => [move]

/-- The attempt behind one character. -/
def advance (lexicon : Lexicon) (attempt : Attempt) (char : Char) : Attempt :=
  match attempt.step lexicon char with
  | .release _ => behind (idle.step lexicon char)
  | move => behind move

/-- The moves of a text, each with its character. -/
def trace (lexicon : Lexicon) : Attempt → Text → List (Char × Move)
  | _, [] => []
  | attempt, char :: rest =>
    (attempt.moves lexicon char).map (char, ·) ++ trace lexicon (attempt.advance lexicon char) rest

/-- The attempt behind a text. -/
def advanceAll (lexicon : Lexicon) (attempt : Attempt) (text : Text) : Attempt :=
  text.foldl (advance lexicon) attempt

/-- What the end of the input makes of an attempt. -/
def finish : Attempt → Option Finished
  | idle => none
  | identifier text => some ⟨.identifier, text⟩
  | number text _ => some ⟨.number, text⟩
  | operator text => some ⟨.operator, text⟩
  | lineComment text => some ⟨.comment, text⟩
  | string text _ => some ⟨.unterminatedString, text⟩
  | blockComment text _ _ => some ⟨.unterminatedComment, text⟩

end Attempt

end TableLexer
