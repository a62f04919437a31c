import TableLexer.Text.Digits
import TableLexer.Toml.Value

/-!
# TOML dates and times

A date, a time, or a date with a time and perhaps an offset from the universal time. Months, days,
hours, minutes and seconds are checked against the calendar and the clock.
-/

namespace TableLexer.Toml

/-- Exactly so many digits, as their value. -/
def readFixed (count : Nat) (text : Text) : Option (Nat × Text) :=
  let digits := text.take count
  if digits.length = count ∧ digits.all Char.isDigit then
    some (Text.digitsValue 10 digits, text.drop count)
  else none

/-- One given character. -/
def readChar (char : Char) : Text → Option Text
  | [] => none
  | first :: rest => if first = char then some rest else none

/-- Number of days of a month. -/
def daysOfMonth (year month : Nat) : Nat :=
  if month = 2 then
    if year % 4 = 0 ∧ (year % 100 ≠ 0 ∨ year % 400 = 0) then 29 else 28
  else if month = 4 ∨ month = 6 ∨ month = 9 ∨ month = 11 then 30
  else 31

/-- A date; the rest. -/
def readDate (text : Text) : Option Text := do
  let (year, rest) ← readFixed 4 text
  let rest ← readChar '-' rest
  let (month, rest) ← readFixed 2 rest
  let rest ← readChar '-' rest
  let (day, rest) ← readFixed 2 rest
  if 1 ≤ month ∧ month ≤ 12 ∧ 1 ≤ day ∧ day ≤ daysOfMonth year month then return rest
  else none

/-- A fraction of a second, if there is one; the rest. -/
def readSecondFraction : Text → Text
  | '.' :: digit :: rest =>
    if digit.isDigit then rest.dropWhile Char.isDigit else '.' :: digit :: rest
  | rest => rest

/-- Hours and minutes; the rest. -/
def readHourMinute (text : Text) : Option Text := do
  let (hour, rest) ← readFixed 2 text
  let rest ← readChar ':' rest
  let (minute, rest) ← readFixed 2 rest
  if hour ≤ 23 ∧ minute ≤ 59 then return rest else none

/-- A time of day; the rest. The last minute of a day may have a sixty-first second. -/
def readTime (text : Text) : Option Text := do
  let rest ← readHourMinute text
  let rest ← readChar ':' rest
  let (second, rest) ← readFixed 2 rest
  if second ≤ 60 then return readSecondFraction rest else none

/-- An offset from the universal time; the rest. -/
def readOffset : Text → Option Text
  | 'Z' :: rest | 'z' :: rest => some rest
  | '+' :: rest | '-' :: rest => readHourMinute rest
  | rest => some rest

/-- What may follow a date: a time, and an offset behind it. -/
def readTimeBehind : Text → Option Text
  | [] => none
  | char :: rest =>
    if char = 'T' ∨ char = 't' ∨ char = ' ' then (readTime rest).bind readOffset else none

/-- A date, a time or both. -/
def readMoment (text : Text) : Option (Value × Text) := do
  let rest ←
    match readDate text with
    | some rest => some ((readTimeBehind rest).getD rest)
    | none => readTime text
  return (.moment (text.take (text.length - rest.length)), rest)

end TableLexer.Toml
