import TableLexer.CommandLine.Run

/-!
# The program

The outermost layer: it collects what the program finds around itself, runs it and writes what it
answers. Only the files that the arguments and the settings can name are looked at, and standard
input is read only where it is the source.
-/

namespace TableLexer.CommandLine

/-- The reason behind a failed attempt to read. A path that goes on behind a file fails when it
is looked up, where the failure still names it; a directory fails only when it is read. -/
def readFaultOf : IO.Error → ReadFault
  | .noFileOrDirectory .. => .notFound
  | .permissionDenied .. => .notPermitted
  | .invalidArgument .. => .nameTooLong
  | .inappropriateType (some _) .. => .notDirectory
  | _ => .isDirectory

/-- The content of a file or the reason why there is none. -/
def readFile (path : Text) : IO (Except ReadFault Bytes) := do
  try
    let content ← IO.FS.readBinFile (String.ofList path)
    return .ok content.toList
  catch error => return .error (readFaultOf error)

/-- Standard input: all of it, or at least its first line. -/
partial def readInput (stream : IO.FS.Stream) (all : Bool) (before : ByteArray) :
    IO ByteArray := do
  let chunk ← stream.read 4096
  let read := before ++ chunk
  if chunk.isEmpty || (!all && chunk.toList.contains 10) then return read
  else readInput stream all read

/-- The variables of the environment that are set, with their values. -/
def readEnvironment (names : List String) : IO (List (Text × Text)) := do
  let found ← names.mapM fun name => do
    return (← IO.getEnv name).map fun value => (name.toList, value.toList)
  return found.filterMap id

/-- The source of the tokenize command, if the arguments ask for it. -/
def requested (arguments : List Text) : Option TokenizeRequest :=
  match read arguments with
  | .command .tokenize _ behind => some behind.request
  | _ => none

/-- The paths that a run may look at, besides those of the environment. -/
def namedPaths (arguments : List Text) : List Text :=
  match read arguments with
  | .command _ before behind =>
    before.config.toList ++ behind.config.toList ++ behind.request.file.toList
  | _ => []

/-- Run the program on the arguments of the process and give its status. -/
def runProcess (arguments : List String) : IO UInt32 := do
  let arguments := arguments.map String.toList
  let environment ← readEnvironment ["DFALEX_VERBOSE", "DFALEX_CONFIG", "DFALEX_NO_COLOR"]
  let home := (← IO.getEnv "HOME").map String.toList
  let configHome := (← IO.getEnv "XDG_CONFIG_HOME").map String.toList
  let settingsHome := configHome.or (home.map (· ++ "/.config".toList))
  let paths := namedPaths arguments ++ environment.map Prod.snd ++
    Settings.searchPath home settingsHome
  let contents ← paths.mapM fun path => do return (path, ← readFile path)
  let files : Files := fun path => (contents.lookup path).getD (.error .notFound)
  let input ←
    match requested arguments with
    | some request =>
      if request.file.isSome then pure .empty
      else readInput (← IO.getStdin) request.all .empty
    | none => pure .empty
  let answer := run arguments ⟨environment, home, settingsHome, input.toList, files⟩
  (← IO.getStdout).write ⟨answer.out.toArray⟩
  let err ← IO.getStderr
  for entry in answer.log do
    let level := if answer.coloured then "\x1b[34mDEBUG\x1b[0m " else "DEBUG "
    err.putStr (level ++ String.ofList entry ++ "\n")
  err.write ⟨answer.err.toArray⟩
  return answer.status.toUInt32

end TableLexer.CommandLine

/-- The program. -/
def main (arguments : List String) : IO UInt32 :=
  TableLexer.CommandLine.runProcess arguments
