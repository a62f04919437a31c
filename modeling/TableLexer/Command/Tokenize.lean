import TableLexer.Command.Outlet
import TableLexer.Diagnostic.Report
import TableLexer.Dump.Basic
import TableLexer.Scan.Scanner
import TableLexer.Settings.Basic

/-!
# The tokenize command

Reads a source from a file or from standard input, dumps its tokens to one outlet and reports its
malformed tokens to another. Without a file only the first line of standard input is read, unless
all of it is asked for.
-/

namespace TableLexer

/-- What a command is asked to do. -/
structure TokenizeRequest where
  /-- The source file; standard input if there is none. -/
  file : Option Text := none
  /-- Whether all of standard input is read. -/
  all : Bool := false
  /-- The format of the dump, if not that of the settings. -/
  format : Option DumpFormat := none
  /-- Whether malformed tokens make the command fail, whatever the settings say. -/
  denyErrors : Bool := false
  deriving DecidableEq, Repr

/-- What a command did. -/
structure Outcome where
  /-- The number of items written, or why the command failed. -/
  result : Except Failure Nat
  /-- The outlet of the items. -/
  out : Outlet
  /-- The outlet of the reports. -/
  err : Outlet
  /-- The entries of the log, in order. -/
  log : List Text
  deriving Repr

/-- The bytes through the first line feed; all of them if there is none. -/
def firstLine : Bytes → Bytes
  | [] => []
  | byte :: rest => if byte = 10 then [byte] else byte :: firstLine rest

/-- The text without the line feeds and carriage returns at its end. -/
def trimLineEnd (text : Text) : Text :=
  (text.reverse.dropWhile fun char => char = '\n' || char = '\r').reverse

namespace Tokenize

/-- The source text of standard input. -/
def inputText (all : Bool) (input : Bytes) : Except ReadFault Text :=
  if all then readText input else (readText (firstLine input)).map trimLineEnd

/-- The source text of a request. -/
def sourceText (request : TokenizeRequest) (input : Bytes) (files : Files) :
    Except Failure Text :=
  match request.file with
  | some path => (files.text path).mapError (Failure.sourceUnreadable path)
  | none => (inputText request.all input).mapError Failure.unreadable

/-- The format of the dump. -/
def format (request : TokenizeRequest) (settings : Settings) : DumpFormat :=
  request.format.getD settings.format

/-- Whether malformed tokens make the command fail. -/
def deniesErrors (request : TokenizeRequest) (settings : Settings) : Bool :=
  request.denyErrors || settings.denyErrors

/-- Write a dump, piece by piece. A JSON array that does not fit is told from other output that
does not. -/
def writeDump (out : Outlet) (format : DumpFormat) (tokens : List Token) :
    Outlet × Except Failure Unit :=
  let (out, complete) := out.writeEach (Dump.pieces format tokens)
  if complete then
    let (out, complete) := out.write (Dump.ending format)
    (out, if complete then .ok () else .error .unwritable)
  else (out, .error (if format = .json then .arrayUnwritable else .unwritable))

/-- The log entry of a diagnostic. -/
def findingEntry (diagnostic : Diagnostic) : Text :=
  diagnostic.message ++ " at ".toList ++ diagnostic.span.display

/-- The log entry of a finished scan, unless nothing was there to scan. -/
def scanEntry (source : Text) (tokens : List Token) : List Text :=
  if source.isEmpty then []
  else
    ["scanned ".toList ++ Text.decimal (Text.byteLength source) ++ " bytes into ".toList ++
      Text.decimal tokens.length ++ " tokens".toList]

/-- The log entry of a finished command. -/
def closingEntry (tokens : List Token) (errors : Nat) (format : DumpFormat) : Text :=
  Text.decimal tokens.length ++ " tokens, ".toList ++ Text.decimal errors ++
    " errors, dumped as ".toList ++ format.name

/-- The log entry of a source file. -/
def readingEntry (request : TokenizeRequest) : List Text :=
  (request.file.map ("reading ".toList ++ ·)).toList

/-- Dump and report what a scan of a source found. -/
def publish (request : TokenizeRequest) (settings : Settings) (source : Text)
    (tokens : List Token) (findings : Collector) (out err : Outlet) : Outcome :=
  let format := format request settings
  let log := findings.recorded.map findingEntry ++ scanEntry source tokens
  match writeDump out format tokens with
  | (out, .error failure) => ⟨.error failure, out, err, log⟩
  | (out, .ok ()) =>
    let (err, complete) :=
      err.writeEach (findings.recorded.map fun diagnostic => diagnostic.report source)
    if complete then
      let errors := findings.errorCount
      let result :=
        if 0 < errors ∧ deniesErrors request settings = true then
          .error (.lexicalErrors errors)
        else .ok tokens.length
      ⟨result, out, err, log ++ [closingEntry tokens errors format]⟩
    else ⟨.error .unwritable, out, err, log⟩

/-- Carry out a request. -/
def run (request : TokenizeRequest) (settings : Settings) (input : Bytes) (files : Files)
    (out err : Outlet) : Outcome :=
  let log := readingEntry request
  match sourceText request input files with
  | .error failure => ⟨.error failure, out, err, log⟩
  | .ok source =>
    match settings.lexicon with
    | .error failure => ⟨.error failure, out, err, log⟩
    | .ok lexicon =>
      match tokenize lexicon source .lenient with
      | .error fault => ⟨.error (.stopped fault), out, err, log⟩
      | .ok (tokens, findings) =>
        let outcome := publish request settings source tokens findings out err
        { outcome with log := log ++ outcome.log }

end Tokenize

end TableLexer
