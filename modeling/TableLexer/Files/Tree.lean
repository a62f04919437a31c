import TableLexer.Files.Reading

/-!
# File trees

A tree of files below one directory, and the way a path leads through it. The parts of a path are
followed one by one: an empty part and a dot stay, two dots go up, and a name goes down. Only a
directory can be left for another part of the path.
-/

namespace TableLexer

/-- What stands at a place of a tree. -/
inductive FileEntry where
  /-- A directory. -/
  | directory
  /-- A file with its content. -/
  | file (content : Bytes)
  deriving DecidableEq, Repr

/-- A tree: every place below the root, as the names that lead to it. -/
structure FileTree where
  /-- The places and what stands there. -/
  entries : List (List Text × FileEntry)
  deriving Repr

namespace FileTree

/-- The parts of a path between its slashes. -/
def parts : Text → List Text
  | [] => [[]]
  | '/' :: rest => [] :: parts rest
  | char :: rest =>
    match parts rest with
    | [] => [[char]]
    | part :: more => (char :: part) :: more

/-- All places on the way to a place, from the root down, without the place itself. -/
def ancestors (place : List Text) : List (List Text) :=
  (List.range place.length).map place.take

/-- The tree with one more place and the directories that lead to it. A path that ends in a slash
is that of a directory. -/
def insert (tree : FileTree) (path : Text) (content : Bytes) : FileTree :=
  let place := (parts path).filter fun part => !part.isEmpty
  let entry := if path.getLast? = some '/' then FileEntry.directory else .file content
  ⟨tree.entries ++ (ancestors place).map (·, .directory) ++ [(place, entry)]⟩

/-- The tree of these paths and contents. -/
def ofList (files : List (Text × Bytes)) : FileTree :=
  files.foldl (fun tree (path, content) => tree.insert path content) ⟨[([], .directory)]⟩

/-- What stands at a place. -/
def entry? (tree : FileTree) (place : List Text) : Option FileEntry :=
  tree.entries.lookup place

/-- The greatest number of bytes of a name. -/
def nameLimit : Nat := 255

/-- The number of bytes that no path reaches. -/
def pathLimit : Nat := 4096

/-- Follow the parts of a path from a directory. Above the root nothing is known but that it is
a directory. -/
def follow (tree : FileTree) : List Text → List Text → Except ReadFault Bytes
  | _, [] => .error .isDirectory
  | place, part :: more =>
    if part = [] ∨ part = ['.'] then follow tree place more
    else if part = ['.', '.'] then
      if place.isEmpty then
        if more.all fun part => part.isEmpty || part.all (· == '.') then .error .isDirectory
        else .error .notFound
      else follow tree place.dropLast more
    else if nameLimit < Text.byteLength part then .error .nameTooLong
    else
      match tree.entry? (place ++ [part]) with
      | none => .error .notFound
      | some .directory => follow tree (place ++ [part]) more
      | some (.file content) => if more.isEmpty then .ok content else .error .notDirectory

/-- The bytes that a path leads to. A path from the root of all files leads out of the tree,
where nothing is known but the root itself. -/
def read (tree : FileTree) : Files := fun path =>
  if pathLimit ≤ Text.byteLength path then .error .nameTooLong
  else if path.isEmpty then .error .notFound
  else if path.head? = some '/' then
    if (parts path).all fun part => part.isEmpty || part = ['.'] || part = ['.', '.'] then
      .error .isDirectory
    else .error .notFound
  else tree.follow [] (parts path)

end FileTree

end TableLexer
