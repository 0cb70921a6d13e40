/-! # Digits and codes

The value of digits in bases up to sixteen, and the character that a hexadecimal code
stands for. -/

namespace Gridcalc.Text

/-- The value of a digit. -/
def digitValue? (c : Char) : Option Nat :=
  if c.isDigit then some (c.toNat - '0'.toNat)
  else if 'a' ≤ c && c ≤ 'f' then some (c.toNat - 'a'.toNat + 10)
  else if 'A' ≤ c && c ≤ 'F' then some (c.toNat - 'A'.toNat + 10)
  else none

/-- The number that digits spell in a base. -/
def positional? (base : Nat) (digits : List Char) : Option Nat :=
  digits.foldlM (fun number c => do
    let digit ← digitValue? c
    if digit < base then some (base * number + digit) else none) 0

/-- The character with a code in hexadecimal, unless the code is no character. -/
def charOfCode? (digits : List Char) : Option Char := do
  let code ← positional? 16 digits
  if code.isValidChar then some (Char.ofNat code) else none

end Gridcalc.Text
