/-!
# Texts

A text is the list of its characters. Places in a text are byte offsets of its UTF-8 form, so
this module measures a text in bytes and cuts it at byte offsets; a cut succeeds exactly where
it falls between two characters.
-/

namespace TableLexer

/-- A text, as its characters in reading order. -/
abbrev Text := List Char

namespace Text

/-- Number of bytes of the UTF-8 form. -/
def byteLength (text : Text) : Nat :=
  text.foldr (fun char length => char.utf8Size + length) 0

@[simp] theorem byteLength_nil : byteLength [] = 0 := rfl

@[simp] theorem byteLength_cons (char : Char) (rest : Text) :
    byteLength (char :: rest) = char.utf8Size + byteLength rest := rfl

@[simp] theorem byteLength_append (first second : Text) :
    byteLength (first ++ second) = byteLength first + byteLength second := by
  induction first with
  | nil => simp
  | cons char rest ih => rw [List.cons_append, byteLength_cons, byteLength_cons, ih, Nat.add_assoc]

/-- The part behind the first `offset` bytes, unless the offset is past the end or inside a
character. -/
def dropBytes? : Text → Nat → Option Text
  | text, 0 => some text
  | [], _ + 1 => none
  | char :: rest, offset + 1 =>
    if char.utf8Size ≤ offset + 1 then dropBytes? rest (offset + 1 - char.utf8Size) else none

/-- The first `count` bytes, unless the count is past the end or inside a character. -/
def takeBytes? : Text → Nat → Option Text
  | _, 0 => some []
  | [], _ + 1 => none
  | char :: rest, count + 1 =>
    if char.utf8Size ≤ count + 1 then
      (takeBytes? rest (count + 1 - char.utf8Size)).map (char :: ·)
    else none

/-- The bytes from `start` up to `stop`, unless the range is reversed, past the end or cuts a
character. -/
def sliceBytes? (text : Text) (start stop : Nat) : Option Text :=
  if start ≤ stop then (dropBytes? text start).bind (takeBytes? · (stop - start)) else none

/-- A number in decimal digits. -/
def decimal (number : Nat) : Text :=
  Nat.toDigits 10 number

/-- The line break. -/
def newline : Text := ['\n']

/-- The lines of a text without their ends. A line ends at a line feed, and a carriage return
directly before it belongs to the end; a last line may lack one. -/
def lines : Text → List Text
  | [] => []
  | '\n' :: rest => [] :: lines rest
  | '\r' :: '\n' :: rest => [] :: lines rest
  | char :: rest =>
    match lines rest with
    | [] => [[char]]
    | line :: more => (char :: line) :: more

end Text

end TableLexer
