import TableLexer.Text.Utf8

/-!
# Reading files

Whoever reads files answers a path with the bytes of a file or with the reason why there are
none. A text is read whole, and its bytes must be the form of a text.
-/

namespace TableLexer

/-- Why something could not be read. -/
inductive ReadFault where
  /-- Nothing has this path. -/
  | notFound
  /-- The path goes on behind a file. -/
  | notDirectory
  /-- The path is that of a directory. -/
  | isDirectory
  /-- A part of the path, or all of it, is longer than paths can be. -/
  | nameTooLong
  /-- Reading is not permitted. -/
  | notPermitted
  /-- The bytes are not the form of a text. -/
  | notText
  deriving DecidableEq, Repr

/-- The wording of a fault. -/
def ReadFault.message : ReadFault → Text
  | .notFound => "No such file or directory (os error 2)".toList
  | .notDirectory => "Not a directory (os error 20)".toList
  | .isDirectory => "Is a directory (os error 21)".toList
  | .nameTooLong => "File name too long (os error 36)".toList
  | .notPermitted => "Permission denied (os error 13)".toList
  | .notText => "stream did not contain valid UTF-8".toList

/-- Answers to paths. -/
abbrev Files := Text → Except ReadFault Bytes

/-- The text with this form. -/
def readText (bytes : Bytes) : Except ReadFault Text :=
  match Text.decode? bytes with
  | some text => .ok text
  | none => .error .notText

namespace Files

/-- The text of a file. -/
def text (files : Files) (path : Text) : Except ReadFault Text :=
  (files path).bind readText

/-- Whether a path leads to a file or to a directory. -/
def present (files : Files) (path : Text) : Bool :=
  match files path with
  | .ok _ | .error .isDirectory | .error .notPermitted | .error .notText => true
  | .error .notFound | .error .notDirectory | .error .nameTooLong => false

end Files

end TableLexer
