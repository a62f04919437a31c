import TableLexer.Command.Keywords
import TableLexer.CommandLine.Arguments
import TableLexer.Settings.Document

/-!
# Running the program

From the arguments and everything around the program to what it writes and the status that it
ends with. Options may also be set in the environment, which counts less than the command line.
Each side of the verb that lacks an option looks for it there, and what it finds must make sense
even if the other side has the option; only an option on both sides is not looked for.
-/

namespace TableLexer.CommandLine

/-- What the program finds around itself. -/
structure Surroundings where
  /-- The variables of the environment. -/
  environment : List (Text × Text)
  /-- The user's home directory. -/
  home : Option Text
  /-- The directory of the user's settings. -/
  settingsHome : Option Text
  /-- All of standard input. -/
  input : Bytes
  /-- The files. -/
  files : Files

/-- What the program did. -/
structure Answer where
  /-- The status it ended with. -/
  status : Nat
  /-- What it wrote to standard output. -/
  out : Bytes := []
  /-- What it wrote to standard error, without the log. -/
  err : Bytes := []
  /-- The entries of the log. -/
  log : List Text := []
  /-- Whether the log is coloured. -/
  coloured : Bool := false
  /-- Why it failed, if a command did. -/
  failure : Option Failure := none
  deriving Repr

/-- The name of the program. -/
def programName : Text := "dfalex".toList

/-- The version of the program. -/
def versionNumber : Text := "0.1.0".toList

/-- The status of a command line that cannot be understood. -/
def misuseStatus : Nat := 2

/-- The line that shows the version. -/
def versionLine (verb : Option Verb) : Text :=
  programName ++ (verb.elim [] fun verb => "-".toList ++ verb.name) ++ " ".toList ++
    versionNumber ++ Text.newline

/-- The help text. -/
def helpText : Text :=
  ("Usage: dfalex [OPTIONS] tokenize [OPTIONS] [FILE]\n" ++
    "       dfalex [OPTIONS] keywords\n").toList

/-- The answer to a command line that cannot be understood. -/
def misuse : Answer := { status := misuseStatus, err := Text.encode helpText }

/-- A truth value of the environment: none if it is not set, refused if it is no truth value. -/
def truthVariable (environment : List (Text × Text)) (name : Text) : Option (Option Bool) :=
  match environment.lookup name with
  | none => some none
  | some value =>
    if value = "true".toList then some (some true)
    else if value = "false".toList then some (some false)
    else none

/-- A path of the environment: none if it is not set, refused if it is empty. -/
def pathVariable (environment : List (Text × Text)) (name : Text) : Option (Option Text) :=
  match environment.lookup name with
  | none => some none
  | some [] => none
  | some path => some (some path)

/-- What the environment says of an option, which is not asked if both sides of the verb have the
option. -/
def unlessGiven (before behind : Bool) (asked : Option (Option α)) : Option (Option α) :=
  if before && behind then some none else asked

/-- Options that hold for the whole program. -/
structure Options where
  /-- Whether a log is asked for. -/
  verbose : Bool
  /-- The path of settings. -/
  config : Option Text
  /-- Whether the log is coloured. -/
  coloured : Bool
  deriving DecidableEq, Repr

/-- The options from both sides of the verb and from the environment; none if the environment is
asked and makes no sense. -/
def options? (environment : List (Text × Text)) (before behind : Given) : Option Options := do
  let verbose ← unlessGiven before.verbose behind.verbose
    (truthVariable environment "DFALEX_VERBOSE".toList)
  let config ← unlessGiven before.config.isSome behind.config.isSome
    (pathVariable environment "DFALEX_CONFIG".toList)
  let noColor ← unlessGiven before.noColor behind.noColor
    (truthVariable environment "DFALEX_NO_COLOR".toList)
  return {
    verbose := behind.verbose || before.verbose || verbose.getD false
    config := behind.config.or (before.config.or config)
    coloured := !(behind.noColor || before.noColor || noColor.getD false) }

/-- The status of a failed command. -/
def failureStatus : Failure → Nat
  | .stopped _ => 101
  | _ => 1

/-- The line that reports a failed command. -/
def failureLine (failure : Failure) : Text :=
  "error: ".toList ++ failure.message ++ Text.newline

/-- The answer of a command that did this. -/
def answer (outcome : Outcome) (logged coloured : Bool) : Answer :=
  let log := if logged then outcome.log else []
  match outcome.result with
  | .ok _ => { status := 0, out := outcome.out.written, err := outcome.err.written, log, coloured }
  | .error failure =>
    { status := failureStatus failure, out := outcome.out.written,
      err := outcome.err.written ++ Text.encode (failureLine failure), log, coloured,
      failure := some failure }

/-- Carry out a command. -/
def perform (verb : Verb) (request : TokenizeRequest) (settings : Settings)
    (surroundings : Surroundings) : Outcome :=
  let log := ["running ".toList ++ verb.name]
  match verb with
  | .tokenize =>
    let outcome :=
      Tokenize.run request settings surroundings.input surroundings.files .unlimited .unlimited
    { outcome with log := log ++ outcome.log }
  | .keywords =>
    let (result, out) := Keywords.run .stored settings .unlimited
    ⟨result, out, .unlimited, log⟩

/-- The settings for a run. -/
def settings (config : Option Text) (surroundings : Surroundings) : Except Failure Settings :=
  match config with
  | some path => Settings.load surroundings.files path
  | none =>
    Settings.find surroundings.files
      (Settings.searchPath surroundings.home surroundings.settingsHome)

/-- Run the program. -/
def run (arguments : List Text) (surroundings : Surroundings) : Answer :=
  match read arguments with
  | .misused => misuse
  | .help => { status := 0, out := Text.encode helpText }
  | .version verb => { status := 0, out := Text.encode (versionLine verb) }
  | .command verb before behind =>
    match options? surroundings.environment before behind with
    | none => misuse
    | some options =>
      match settings options.config surroundings with
      | .error failure =>
        answer ⟨.error failure, .unlimited, .unlimited, []⟩ false options.coloured
      | .ok settings =>
        answer (perform verb behind.request settings surroundings)
          (options.verbose || settings.verbose) options.coloured

end TableLexer.CommandLine
