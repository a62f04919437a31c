import TableLexer.Settings.Basic
import TableLexer.Toml.Document

/-!
# Settings documents

Settings are written as a TOML document. Missing keys have their defaults and unknown keys are
passed over, but a key that is known must hold what it is for. A group of settings may also be
written as an array of its members in their order.
-/

namespace TableLexer

open Toml

/-- The members of a group, by position where they are written as an array and by name
otherwise. A date counts as a group without known members. -/
def Toml.Value.members : Value → Option (Nat → Text → Option Value)
  | .table _ entries => some fun _ name => entries.lookup name
  | .array items | .tables items => some fun position _ => items[position]?
  | .moment _ => some fun _ _ => none
  | .boolean _ | .integer _ | .float _ | .text _ => none

/-- Whether the value is an array or a table with nothing in it. -/
def Toml.Value.isVoid : Value → Bool
  | .table _ items => items.isEmpty
  | .array items | .tables items => items.isEmpty
  | _ => false

/-- A truth value. -/
def Toml.Value.boolean? : Value → Option Bool
  | .boolean value => some value
  | _ => none

/-- A string. -/
def Toml.Value.text? : Value → Option Text
  | .text value => some value
  | _ => none

/-- An array of strings. -/
def Toml.Value.texts? : Value → Option (List Text)
  | .array items | .tables items => items.mapM Value.text?
  | _ => none

/-- A format, by its name or as a table whose only key is its name and holds nothing. -/
def Toml.Value.format? : Value → Option DumpFormat
  | .text name => DumpFormat.ofName? name
  | .table _ [(name, value)] => if value.isVoid then DumpFormat.ofName? name else none
  | _ => none

namespace Settings

/-- The value of a member that may be missing. -/
def member (read : Value → Option α) (default : α) : Option Value → Option α
  | some value => read value
  | none => some default

/-- The settings of a document's root table. -/
def ofEntries? (entries : Entries) : Option Settings := do
  let verbose ← member Value.boolean? false (entries.lookup "verbose".toList)
  let output ← member Value.members (fun _ _ => none) (entries.lookup "output".toList)
  let format ← member Value.format? .row (output 0 "format".toList)
  let denyErrors ← member Value.boolean? false (output 1 "deny_errors".toList)
  let lexicon ← member Value.members (fun _ _ => none) (entries.lookup "lexicon".toList)
  let keywords ← member Value.texts? [] (lexicon 0 "keywords".toList)
  return ⟨verbose, format, denyErrors, keywords⟩

/-- The settings of a document. -/
def ofDocument? (document : Text) : Option Settings :=
  (readDocument document).bind ofEntries?

/-- The settings at a path. -/
def load (files : Files) (path : Text) : Except Failure Settings :=
  if files.present path then
    match files.text path with
    | .error fault => .error (.unreadable fault)
    | .ok document =>
      match ofDocument? document with
      | some settings => .ok settings
      | none => .error .settingsMalformed
  else .error (.settingsNotFound path)

/-- The name of a settings file. -/
def fileName : Text := "dfalex.toml".toList

/-- The paths at which settings are looked for, in order: the working directory, the user's home
directory and the directory of the user's settings. -/
def searchPath (home settingsHome : Option Text) : List Text :=
  [fileName] ++ (home.map (· ++ "/.config/dfalex/".toList ++ fileName)).toList ++
    (settingsHome.map (· ++ "/dfalex/".toList ++ fileName)).toList

/-- The settings at the first path where there are any, and the default ones if there are none
at all. -/
def find (files : Files) (paths : List Text) : Except Failure Settings :=
  match paths.find? files.present with
  | some path => load files path
  | none => .ok {}

end Settings

end TableLexer
