import TableLexer.Command.Tokenize

/-!
# Command line arguments

Arguments are read from left to right. Options of the program may stand before or behind the name
of the command, those of a command only behind it. Each option may be given once on each side. A
value is written behind the option as an argument of its own, behind an equals sign, or directly
behind a letter; letters without values may share a dash. Behind two dashes everything is a file.
-/

namespace TableLexer.CommandLine

/-- What the program can be asked for. -/
inductive Verb where
  /-- Dump the tokens of a source. -/
  | tokenize
  /-- List the reserved words. -/
  | keywords
  deriving DecidableEq, Repr

/-- The word for a verb. -/
def Verb.name : Verb → Text
  | .tokenize => "tokenize".toList
  | .keywords => "keywords".toList

/-- The options. -/
inductive Switch where
  /-- Write a log. -/
  | verbose
  /-- Take settings from a given path. -/
  | config
  /-- Write the log without colours. -/
  | noColor
  /-- Show the version. -/
  | version
  /-- Show help. -/
  | help
  /-- Read all of standard input. -/
  | all
  /-- Choose the format. -/
  | format
  /-- Fail on malformed tokens. -/
  | denyErrors
  deriving DecidableEq, Repr

namespace Switch

/-- Whether the option comes with a value. -/
def takesValue : Switch → Bool
  | config | format => true
  | _ => false

/-- The options that every command knows, by name and by letter. -/
def common : List (Switch × Text × Option Char) :=
  [(verbose, "verbose".toList, some 'v'), (config, "config".toList, some 'c'),
    (noColor, "no-color".toList, none), (version, "version".toList, some 'V'),
    (help, "help".toList, some 'h')]

/-- The options of the tokenize command, by name and by letter. -/
def ofTokenize : List (Switch × Text × Option Char) :=
  [(all, "all".toList, some 'a'), (format, "format".toList, some 'F'),
    (denyErrors, "deny-errors".toList, none)]

/-- The options known behind a verb, or before any. -/
def known : Option Verb → List (Switch × Text × Option Char)
  | some .tokenize => common ++ ofTokenize
  | some .keywords | none => common

/-- The option of a name. -/
def ofName? (verb : Option Verb) (name : Text) : Option Switch :=
  ((known verb).find? fun option => option.2.1 == name).map Prod.fst

/-- The option of a letter. -/
def ofLetter? (verb : Option Verb) (letter : Char) : Option Switch :=
  ((known verb).find? fun option => option.2.2 == some letter).map Prod.fst

end Switch

/-- What was given on one side of the verb. -/
structure Given where
  /-- A log is asked for. -/
  verbose : Bool := false
  /-- The path of settings. -/
  config : Option Text := none
  /-- No colours are asked for. -/
  noColor : Bool := false
  /-- What is asked of the tokenize command. -/
  request : TokenizeRequest := {}
  deriving DecidableEq, Repr

namespace Given

/-- Note an option without a value, unless it was given already. -/
def setFlag (given : Given) : Switch → Option Given
  | .verbose => if given.verbose then none else some { given with verbose := true }
  | .noColor => if given.noColor then none else some { given with noColor := true }
  | .all =>
    if given.request.all then none
    else some { given with request := { given.request with all := true } }
  | .denyErrors =>
    if given.request.denyErrors then none
    else some { given with request := { given.request with denyErrors := true } }
  | .config | .format | .version | .help => none

/-- Note the value of an option, unless it was given already or has no meaning. -/
def setValue (given : Given) (switch : Switch) (value : Text) : Option Given :=
  match switch with
  | .config =>
    if given.config.isSome || value.isEmpty then none else some { given with config := some value }
  | .format => do
    let format ← DumpFormat.ofName? value
    if given.request.format.isSome then none
    else some { given with request := { given.request with format := some format } }
  | _ => none

/-- Note the source file, unless there is one or the path is empty. -/
def setFile (given : Given) (path : Text) : Option Given :=
  if given.request.file.isSome || path.isEmpty then none
  else some { given with request := { given.request with file := some path } }

end Given

/-- What a command line asks for. -/
inductive Reading where
  /-- It cannot be understood. -/
  | misused
  /-- Help. -/
  | help
  /-- The version, of the program or of a command. -/
  | version (verb : Option Verb)
  /-- A command, with what is given before and behind its verb. -/
  | command (verb : Verb) (before behind : Given)
  deriving DecidableEq, Repr

/-- What an argument leads to. -/
inductive Progress where
  /-- Reading goes on, perhaps with an option that waits for its value. -/
  | proceed (given : Given) (waiting : Option Switch)
  /-- Reading ends. -/
  | stop (reading : Reading)
  deriving DecidableEq, Repr

/-- Reading goes on with what was noted, or ends if nothing could be noted. -/
def Progress.ofNoted : Option Given → Progress
  | some given => .proceed given none
  | none => .stop .misused

/-- Letters behind one dash. -/
def readLetters (verb : Option Verb) (given : Given) : Text → Progress
  | [] => .proceed given none
  | letter :: more =>
    match Switch.ofLetter? verb letter with
    | none => .stop .misused
    | some .version => .stop (.version verb)
    | some .help => .stop .help
    | some switch =>
      if switch.takesValue then
        if more.isEmpty then .proceed given (some switch)
        else
          let value := if more.head? = some '=' then more.tail else more
          .ofNoted (given.setValue switch value)
      else
        match given.setFlag switch with
        | some given => readLetters verb given more
        | none => .stop .misused

/-- A name behind two dashes, with a value behind an equals sign if there is one. -/
def readName (verb : Option Verb) (given : Given) (text : Text) : Progress :=
  let name := text.takeWhile (· != '=')
  let value := if '=' ∈ text then some (text.drop (name.length + 1)) else none
  match Switch.ofName? verb name, value with
  | none, _ => .stop .misused
  | some .version, none => .stop (.version verb)
  | some .help, none => .stop .help
  | some switch, some value => .ofNoted (given.setValue switch value)
  | some switch, none =>
    if switch.takesValue then .proceed given (some switch) else .ofNoted (given.setFlag switch)

/-- Whether an argument is an option rather than a value. A dash alone is a value. -/
def looksLikeOption : Text → Bool
  | '-' :: _ :: _ => true
  | _ => false

/-- What has been read when the arguments end. -/
def conclude (verb : Option Verb) (before behind : Given) : Reading :=
  match verb with
  | some verb => .command verb before behind
  | none => .misused

/-- Arguments behind two dashes. -/
def readFiles (verb : Option Verb) (before given : Given) : List Text → Reading
  | [] => conclude verb before given
  | argument :: more =>
    match if verb = some .tokenize then given.setFile argument else none with
    | some given => readFiles verb before given more
    | none => .misused

/-- Arguments from left to right. Before the verb, `before` is not used and `given` becomes it. -/
def readArguments (verb : Option Verb) (before given : Given) (waiting : Option Switch) :
    List Text → Reading
  | [] => if waiting.isSome then .misused else conclude verb before given
  | argument :: more =>
    match waiting with
    | some switch =>
      if looksLikeOption argument then .misused
      else
        match given.setValue switch argument with
        | some given => readArguments verb before given none more
        | none => .misused
    | none =>
      match argument with
      | ['-', '-'] => readFiles verb before given more
      | '-' :: '-' :: name =>
        match readName verb given name with
        | .proceed given waiting => readArguments verb before given waiting more
        | .stop reading => reading
      | '-' :: letter :: letters =>
        match readLetters verb given (letter :: letters) with
        | .proceed given waiting => readArguments verb before given waiting more
        | .stop reading => reading
      | word =>
        match verb with
        | none =>
          if word = Verb.tokenize.name then readArguments (some .tokenize) given {} none more
          else if word = Verb.keywords.name then readArguments (some .keywords) given {} none more
          else if word = "help".toList then .help
          else .misused
        | some .tokenize =>
          match given.setFile word with
          | some given => readArguments verb before given none more
          | none => .misused
        | some .keywords => .misused

/-- What the arguments of the program ask for. -/
def read (arguments : List Text) : Reading :=
  readArguments none {} {} none arguments

end TableLexer.CommandLine
