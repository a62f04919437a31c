import TableLexer.Text.Basic

/-!
# Digits

Numbers that are spelled with digits in some base, of which the letters stand for the digits from
ten on, in either case.
-/

namespace TableLexer.Text

/-- Whether the character is a hexadecimal digit. -/
def isHexDigit (char : Char) : Bool :=
  char.isDigit || ('a' ≤ char && char ≤ 'f') || ('A' ≤ char && char ≤ 'F')

/-- The value of a digit in any base. -/
def digitValue (char : Char) : Nat :=
  if char.isDigit then char.toNat - '0'.toNat
  else if 'a' ≤ char ∧ char ≤ 'f' then char.toNat - 'a'.toNat + 10
  else char.toNat - 'A'.toNat + 10

/-- The value of digits in a base. -/
def digitsValue (base : Nat) (digits : Text) : Nat :=
  digits.foldl (fun value digit => value * base + digitValue digit) 0

end TableLexer.Text
