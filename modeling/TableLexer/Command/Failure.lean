import TableLexer.Fault
import TableLexer.Files.Reading

/-!
# Failures of commands

What a command can fail with, and the words for it. Malformed input is no failure by itself: it
is one only where errors are denied.
-/

namespace TableLexer

/-- Why a command failed. -/
inductive Failure where
  /-- There are no settings at the path. -/
  | settingsNotFound (path : Text)
  /-- The settings are no document, or hold something of a wrong kind. -/
  | settingsMalformed
  /-- Settings or standard input could not be read. -/
  | unreadable (fault : ReadFault)
  /-- The source file could not be read. -/
  | sourceUnreadable (path : Text) (fault : ReadFault)
  /-- A keyword of the settings could never be scanned as one. -/
  | notAnIdentifier (word : Text)
  /-- An outlet did not take all that was written. -/
  | unwritable
  /-- An outlet did not take all of a JSON array. -/
  | arrayUnwritable
  /-- There were malformed tokens and they were denied. -/
  | lexicalErrors (count : Nat)
  /-- A computation stopped without an answer. -/
  | stopped (fault : Fault)
  deriving DecidableEq, Repr

/-- The wording of a failure. -/
def Failure.message : Failure → Text
  | settingsNotFound path =>
    "Configuration error: Configuration file not found: ".toList ++ path
  | settingsMalformed => "Configuration error: Failed to parse configuration".toList
  | unreadable fault => "IO error: ".toList ++ fault.message
  | sourceUnreadable path fault =>
    "Validation error: cannot read ".toList ++ path ++ ": ".toList ++ fault.message
  | notAnIdentifier word =>
    "Validation error: keyword `".toList ++ word ++ "` is not a valid identifier".toList
  | unwritable => "IO error: write failed".toList
  | arrayUnwritable => "JSON error: write failed".toList
  | lexicalErrors count => Text.decimal count ++ " lexical error(s) found".toList
  | stopped fault => fault.message

end TableLexer
