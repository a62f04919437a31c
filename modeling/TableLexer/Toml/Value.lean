import TableLexer.Text.Basic

/-!
# TOML values and tables

A value, and the rules by which a document fills its tables. Every table remembers how it came
about, because that decides who may still add to it: a table that a header opened is closed to
dotted keys, one that dotted keys made is closed to headers, and one written in braces is closed
to both.
-/

namespace TableLexer.Toml

/-- How a table came about. -/
inductive Origin where
  /-- It has a header of its own, or is the root. -/
  | header
  /-- A longer header passed through it. -/
  | passed
  /-- A dotted key passed through it. -/
  | dotted
  /-- It is written in braces. -/
  | braced
  deriving DecidableEq, Repr

/-- A value. Numbers with a fraction, dates and times are kept as they are written. -/
inductive Value where
  /-- A truth value. -/
  | boolean (value : Bool)
  /-- A whole number. -/
  | integer (value : Int)
  /-- A number with a fraction or an exponent, an infinity or no number. -/
  | float (literal : Text)
  /-- A date, a time or both. -/
  | moment (literal : Text)
  /-- A string. -/
  | text (value : Text)
  /-- An array written in brackets. -/
  | array (items : List Value)
  /-- A table. -/
  | table (origin : Origin) (entries : List (Text × Value))
  /-- The tables of repeated headers in double brackets. -/
  | tables (rows : List Value)
  deriving Repr

/-- The keys of a table with their values. -/
abbrev Entries := List (Text × Value)

/-- Change the value of a key by a function that may refuse; a new key comes last. -/
def alterKey (key : Text) (change : Option Value → Option Value) : Entries → Option Entries
  | [] => (change none).map fun value => [(key, value)]
  | (other, value) :: more =>
    if other = key then (change (some value)).map fun value => (key, value) :: more
    else (alterKey key change more).map ((other, value) :: ·)

/-- Add a key that must be new. -/
def addKey (key : Text) (value : Value) (entries : Entries) : Option Entries :=
  alterKey key (fun
    | none => some value
    | some _ => none) entries

/-- Change the table that a path leads to. Tables that are missing on the way are made. A dotted
key does not pass a table with a header of its own, nothing passes a table in braces, and the way
through repeated tables goes through the last one. -/
def alterAt (byDots : Bool) (change : Origin → Entries → Option Entries) :
    List Text → Origin → Entries → Option Entries
  | [], origin, entries => change origin entries
  | key :: path, _, entries =>
    alterKey key (fun
      | none =>
        let origin := if byDots then Origin.dotted else .passed
        (alterAt byDots change path origin []).map (.table origin)
      | some (.table origin inner) =>
        if origin = .braced ∨ (byDots = true ∧ origin = .header) then none
        else (alterAt byDots change path origin inner).map (.table origin)
      | some (.tables rows) =>
        match rows.getLast? with
        | some (.table origin inner) =>
          (alterAt byDots change path origin inner).map fun inner =>
            .tables (rows.dropLast ++ [.table origin inner])
        | _ => none
      | some _ => none) entries

/-- Add the value of a possibly dotted key, of which `path` is all but the last part. The table
that it goes to must be made by dots exactly if there are dots. -/
def assign (path : List Text) (key : Text) (value : Value) (origin : Origin)
    (entries : Entries) : Option Entries :=
  alterAt true (fun origin entries =>
    if origin = .dotted ↔ path = [] then none else addKey key value entries)
    path origin entries

/-- Open the table of a header. It must be new, or have been passed by longer headers only. -/
def openTable (path : List Text) (key : Text) (root : Entries) : Option Entries :=
  alterAt false (fun _ entries =>
    alterKey key (fun
      | none => some (.table .header [])
      | some (.table .passed inner) => some (.table .header inner)
      | some _ => none) entries)
    path .header root

/-- Open one more table of a repeated header. -/
def openRow (path : List Text) (key : Text) (root : Entries) : Option Entries :=
  alterAt false (fun _ entries =>
    alterKey key (fun
      | none => some (.tables [.table .header []])
      | some (.tables rows) => some (.tables (rows ++ [.table .header []]))
      | some _ => none) entries)
    path .header root

/-- Add the value of a possibly dotted key below the header that is open. -/
def assignBelow (opened : List Text) (path : List Text) (key : Text) (value : Value)
    (root : Entries) : Option Entries :=
  alterAt false (assign path key value) opened .header root

end TableLexer.Toml
