import TableLexer.Fault
import TableLexer.Text.Basic

/-!
# Cursors

A cursor moves through a source one character at a time and keeps count of bytes, lines and
columns. Lines and columns are counted in 32 bits and bytes in 64; a count that would pass its
greatest value is a fault.
-/

namespace TableLexer

/-- The greatest line and the greatest column. -/
def countLimit : Nat := UInt32.size - 1

/-- The greatest byte offset. -/
def offsetLimit : Nat := UInt64.size - 1

/-- A place between two characters of a source. -/
structure Mark where
  /-- Number of bytes before it. -/
  position : Nat
  /-- The line it is on, counted from one. -/
  line : Nat
  /-- The column behind it, counted from one in characters. -/
  column : Nat
  deriving DecidableEq, Repr

namespace Mark

/-- The place before the first character. -/
def origin : Mark := ⟨0, 1, 1⟩

/-- The place behind a character, counted without limits. -/
def after (mark : Mark) (char : Char) : Mark :=
  if char = '\n' then ⟨mark.position + char.utf8Size, mark.line + 1, 1⟩
  else ⟨mark.position + char.utf8Size, mark.line, mark.column + 1⟩

/-- Whether every count is within its limits. -/
def fits (mark : Mark) : Bool :=
  mark.position ≤ offsetLimit && mark.line ≤ countLimit && mark.column ≤ countLimit

/-- The place behind a character, if the counts have room for it. -/
def pass (mark : Mark) (char : Char) : Except Fault Mark :=
  if (mark.after char).fits then .ok (mark.after char) else .error .overflow

end Mark

/-- A place in a source, with what lies ahead of it. -/
structure Cursor where
  /-- The whole text. -/
  source : Text
  /-- The part that the cursor has not passed. -/
  rest : Text
  /-- The counts of the part that it has passed. -/
  mark : Mark
  deriving DecidableEq, Repr

namespace Cursor

/-- The cursor before the first character. -/
def start (source : Text) : Cursor := ⟨source, source, .origin⟩

/-- The next character, if there is one. -/
def current? (cursor : Cursor) : Option Char := cursor.rest.head?

/-- Pass the next character; at the end nothing happens. -/
def advance (cursor : Cursor) : Except Fault Cursor :=
  match cursor.rest with
  | [] => .ok cursor
  | char :: rest => (cursor.mark.pass char).map fun mark => ⟨cursor.source, rest, mark⟩

/-- Pass so many characters, or all that there are. -/
def advanceBy : Nat → Cursor → Except Fault Cursor
  | 0, cursor => .ok cursor
  | count + 1, cursor => if cursor.rest.isEmpty then .ok cursor else
      cursor.advance.bind (advanceBy count)

/-- Whether every byte of the source is passed. -/
def isAtEnd (cursor : Cursor) : Bool := Text.byteLength cursor.source ≤ cursor.mark.position

/-- The text from a byte offset up to the cursor. -/
def sliceFrom (cursor : Cursor) (start : Nat) : Except Fault Text :=
  match Text.sliceBytes? cursor.source start cursor.mark.position with
  | some text => .ok text
  | none => .error .badSlice

end Cursor

end TableLexer
