import TableLexer.Toml.Moment
import TableLexer.Toml.Number
import TableLexer.Toml.Quoted

/-!
# TOML documents

A document is a sequence of lines: a header in brackets, an assignment, or nothing, each perhaps
with a comment. Reading gives the root table or nothing; what exactly is wrong with a document is
not said.
-/

namespace TableLexer.Toml

/-- The number of levels that arrays and braces may not reach, and of parts that a key may not
have. -/
def depthLimit : Nat := 80

/-- The rest behind a comment, if the text starts with one. Nothing if the comment holds a
character that no comment may hold. -/
def skipComment : Text → Option Text
  | '#' :: rest =>
    let behind := rest.dropWhile isShown
    match behind with
    | [] | '\n' :: _ | '\r' :: '\n' :: _ => some behind
    | _ => none
  | rest => some rest

/-- The end of a line with what may stand before it; the rest. -/
def readLineEnd (text : Text) : Option Text := do
  let rest ← skipComment (skipBlanks text)
  if rest.isEmpty then return [] else readNewline rest

/-- The rest behind blanks, line breaks and comments inside an array. The fuel bounds the number
of lines. -/
def skipArrayLayout : Nat → Text → Option Text
  | 0, _ => none
  | fuel + 1, text =>
    match skipBlanks text with
    | '#' :: rest => do
      let rest ← skipComment ('#' :: rest)
      skipArrayLayout fuel (← readNewline rest)
    | rest =>
      match readNewline rest with
      | some rest => skipArrayLayout fuel rest
      | none => if rest.head? = some '\r' then none else some rest

/-- Whether a key may hold the character without quotes. -/
def isBareKey (char : Char) : Bool := char.isAlphanum || char = '-' || char = '_'

/-- One part of a key, with the blanks around it. -/
def readKeyPart (text : Text) : Option (Text × Text) := do
  let text := skipBlanks text
  let (part, rest) ←
    if text.head? = some '"' ∨ text.head? = some '\'' then readLineString text
    else
      let part := text.takeWhile isBareKey
      if part.isEmpty then none else some (part, text.drop part.length)
  return (part, skipBlanks rest)

/-- The further parts of a dotted key. The fuel bounds their number. -/
def readMoreParts : Nat → Text → Option (List Text × Text)
  | 0, _ => none
  | fuel + 1, '.' :: rest => do
    let (part, rest) ← readKeyPart rest
    let (parts, rest) ← readMoreParts fuel rest
    return (part :: parts, rest)
  | _ + 1, rest => some ([], rest)

/-- A possibly dotted key, as all parts but the last and the last one. -/
def readKey (text : Text) : Option ((List Text × Text) × Text) := do
  let (first, rest) ← readKeyPart text
  let (more, rest) ← readMoreParts (rest.length + 1) rest
  if depthLimit ≤ more.length + 1 then none
  else
    let parts := first :: more
    return ((parts.dropLast, parts.getLastD first), rest)

/-- A word that stands for a value. -/
def readWord (word : Text) (value : Value) (text : Text) : Option (Value × Text) :=
  if word.isPrefixOf text then some (value, text.drop word.length) else none

mutual

/-- A value. The depth counts the brackets and braces around it, and the fuel bounds the number
of values. -/
def readValue : Nat → Nat → Text → Option (Value × Text)
  | 0, _, _ => none
  | _ + 1, _, [] => none
  | fuel + 1, depth, char :: rest =>
    if char = '"' ∨ char = '\'' then
      (readString (char :: rest)).map fun (text, rest) => (.text text, rest)
    else if char = '[' then
      if depthLimit ≤ depth + 1 then none
      else do
        let (items, rest) ← readItems fuel (depth + 1) rest
        return (.array items, rest)
    else if char = '\x7b' then
      if depthLimit ≤ depth + 1 then none
      else
        let inside := skipBlanks rest
        if inside.head? = some '\x7d' then some (.table .braced [], inside.tail)
        else do
          let (entries, rest) ← readMembers fuel (depth + 1) [] rest
          return (.table .braced entries, rest)
    else if char = 't' then readWord "true".toList (.boolean true) (char :: rest)
    else if char = 'f' then readWord "false".toList (.boolean false) (char :: rest)
    else (readMoment (char :: rest)).or (readNumber (char :: rest))

/-- The items of an array up to its closing bracket. -/
def readItems : Nat → Nat → Text → Option (List Value × Text)
  | 0, _, _ => none
  | fuel + 1, depth, text => do
    let text ← skipArrayLayout (text.length + 1) text
    if text.head? = some ']' then return ([], text.tail)
    else
      let (item, rest) ← readValue fuel depth text
      let rest ← skipArrayLayout (rest.length + 1) rest
      match rest with
      | ']' :: rest => return ([item], rest)
      | ',' :: rest =>
        let (items, rest) ← readItems fuel depth rest
        return (item :: items, rest)
      | _ => none

/-- The members of a table in braces up to its closing brace, added to those before them. -/
def readMembers : Nat → Nat → Entries → Text → Option (Entries × Text)
  | 0, _, _, _ => none
  | fuel + 1, depth, entries, text => do
    let ((path, key), rest) ← readKey text
    let rest ← readChar '=' rest
    let (value, rest) ← readValue fuel depth (skipBlanks rest)
    let entries ← assign path key value .braced entries
    match skipBlanks rest with
    | '\x7d' :: rest => return (entries, rest)
    | ',' :: rest => readMembers fuel depth entries rest
    | _ => none

end

/-- A header: whether its brackets are double, its key, and the rest behind its line. -/
def readHeader : Text → Option ((Bool × List Text × Text) × Text)
  | '[' :: '[' :: rest => do
    let ((path, key), rest) ← readKey rest
    let rest ← readChar ']' rest
    let rest ← readChar ']' rest
    return ((true, path, key), ← readLineEnd rest)
  | '[' :: rest => do
    let ((path, key), rest) ← readKey rest
    let rest ← readChar ']' rest
    return ((false, path, key), ← readLineEnd rest)
  | _ => none

/-- An assignment: its key and value, and the rest behind its line. -/
def readAssignment (text : Text) : Option ((List Text × Text × Value) × Text) := do
  let ((path, key), rest) ← readKey text
  let rest ← readChar '=' rest
  let value := skipBlanks rest
  let (value, rest) ← readValue (2 * value.length + 2) 0 value
  return ((path, key, value), ← readLineEnd rest)

/-- The lines of a document, below the header that is open. The fuel bounds their number. -/
def readLines : Nat → List Text → Entries → Text → Option Entries
  | 0, _, _, _ => none
  | fuel + 1, opened, root, text =>
    match skipBlanks text with
    | [] => some root
    | '[' :: rest => do
      let ((isRow, path, key), rest) ← readHeader ('[' :: rest)
      let root ← if isRow then openRow path key root else openTable path key root
      readLines fuel (path ++ [key]) root rest
    | char :: rest =>
      if char = '#' ∨ char = '\n' ∨ char = '\r' then do
        readLines fuel opened root (← readLineEnd (char :: rest))
      else do
        let ((path, key, value), rest) ← readAssignment (char :: rest)
        let root ← assignBelow opened path key value root
        readLines fuel opened root rest

/-- The root table of a document, which may start with a byte order mark. -/
def readDocument (text : Text) : Option Entries :=
  let text := if text.head? = some '\ufeff' then text.tail else text
  readLines (text.length + 1) [] [] text

end TableLexer.Toml
