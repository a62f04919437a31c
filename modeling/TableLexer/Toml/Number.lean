import TableLexer.Text.Digits
import TableLexer.Toml.Value

/-!
# TOML numbers

Whole numbers in four bases within 64 bits, and numbers with a fraction or an exponent. A reader
takes a text and gives what it read with the rest, or nothing. Underscores stand between digits
only, and a decimal number starts with a zero only if that is all of its whole part.
-/

namespace TableLexer.Toml

/-- Digits behind at least one other, with single underscores between digits. -/
def readMoreDigits (accepts : Char → Bool) : Text → Option (Text × Text)
  | [] => some ([], [])
  | [char] =>
    if accepts char then some ([char], [])
    else if char = '_' then none
    else some ([], [char])
  | char :: second :: rest =>
    if accepts char then
      (readMoreDigits accepts (second :: rest)).map fun (digits, rest) => (char :: digits, rest)
    else if char = '_' then
      if accepts second then
        (readMoreDigits accepts rest).map fun (digits, rest) => (second :: digits, rest)
      else none
    else some ([], char :: second :: rest)

/-- At least one digit, with single underscores between digits. -/
def readDigits (accepts : Char → Bool) : Text → Option (Text × Text)
  | [] => none
  | char :: rest =>
    if accepts char then
      (readMoreDigits accepts rest).map fun (digits, rest) => (char :: digits, rest)
    else none

/-- A whole number, if it has room in 64 bits. -/
def integer? (value : Int) : Option Value :=
  if Int64.minValue.toInt ≤ value ∧ value ≤ Int64.maxValue.toInt then some (.integer value)
  else none

/-- A whole number behind the mark of its base. -/
def readInBase (base : Nat) (accepts : Char → Bool) (text : Text) : Option (Value × Text) := do
  let (digits, rest) ← readDigits accepts text
  let value ← integer? (Text.digitsValue base digits)
  return (value, rest)

/-- An optional sign. -/
def readSign : Text → Text × Text
  | '+' :: rest => (['+'], rest)
  | '-' :: rest => (['-'], rest)
  | rest => ([], rest)

/-- The whole part of a decimal number, without its sign. -/
def readWhole : Text → Option (Text × Text)
  | '0' :: rest => some (['0'], rest)
  | text => readDigits Char.isDigit text

/-- A point and the digits behind it. Without a point there is no fraction; a point without
digits is an error. -/
def readFraction : Text → Option (Text × Text)
  | '.' :: rest => (readDigits Char.isDigit rest).map fun (digits, rest) => (digits, rest)
  | rest => some ([], rest)

/-- An exponent, as its sign and its digits. -/
def readExponent : Text → Option (Option (Text × Text) × Text)
  | [] => some (none, [])
  | char :: rest =>
    if char = 'e' ∨ char = 'E' then
      let (sign, rest) := readSign rest
      (readDigits Char.isDigit rest).map fun (digits, rest) => (some (sign, digits), rest)
    else some (none, char :: rest)

/-- Whether a decimal number is too large for a double, that is, at least halfway from the
greatest double to the next power of two. The number is `digits` with the point so many places
from the right, times a power of ten. -/
def exceedsDouble (digits : Text) (places : Nat) (exponent : Int) : Bool :=
  let mantissa := Text.digitsValue 10 digits
  let scale := exponent - places
  let size : Int := (Text.decimal mantissa).length + scale
  if mantissa = 0 ∨ size < 309 then false
  else if 310 < size then true
  else
    let limit := (Nat.pow 2 54 - 1) * Nat.pow 2 970
    if 0 ≤ scale then limit ≤ mantissa * Nat.pow 10 scale.toNat
    else limit * Nat.pow 10 (-scale).toNat ≤ mantissa

/-- A number with a sign or without, in decimal digits. A positive number that is too large for a
double is an error. -/
def readDecimal (text : Text) : Option (Value × Text) := do
  let (sign, afterSign) := readSign text
  let (whole, afterWhole) ← readWhole afterSign
  let (fraction, afterFraction) ← readFraction afterWhole
  let (exponent, rest) ← readExponent afterFraction
  let literal := text.take (text.length - rest.length)
  match fraction, exponent with
  | [], none =>
    let magnitude : Int := Text.digitsValue 10 whole
    let value ← integer? (if sign = ['-'] then -magnitude else magnitude)
    return (value, rest)
  | _, _ =>
    let power : Int :=
      match exponent with
      | some (sign, digits) =>
        let magnitude : Int := Text.digitsValue 10 digits
        if sign = ['-'] then -magnitude else magnitude
      | none => 0
    if sign ≠ ['-'] ∧ exceedsDouble (whole ++ fraction) fraction.length power then none
    else return (.float literal, rest)

/-- An infinity or no number, with a sign or without. -/
def readSpecial (text : Text) : Option (Value × Text) :=
  let (sign, rest) := readSign text
  match rest with
  | 'i' :: 'n' :: 'f' :: rest => some (.float (sign ++ "inf".toList), rest)
  | 'n' :: 'a' :: 'n' :: rest => some (.float (sign ++ "nan".toList), rest)
  | _ => none

/-- Any number. -/
def readNumber : Text → Option (Value × Text)
  | '0' :: 'x' :: rest => readInBase 16 Text.isHexDigit rest
  | '0' :: 'o' :: rest => readInBase 8 (fun char => '0' ≤ char && char ≤ '7') rest
  | '0' :: 'b' :: rest => readInBase 2 (fun char => char = '0' || char = '1') rest
  | text => (readSpecial text).or (readDecimal text)

end TableLexer.Toml
