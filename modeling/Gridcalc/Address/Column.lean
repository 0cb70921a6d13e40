/-! # Column letters

Columns are numbered from one in bijective base 26: `A` is 1, `Z` is 26 and `AA`
is 27. There is no zero digit, so every positive number has exactly one spelling in
capital letters. -/

namespace Gridcalc.Address

/-- The digit a letter stands for, in either case. -/
def letterValue (c : Char) : Nat := c.toUpper.toNat - 'A'.toNat + 1

/-- The number of the column that a run of letters names. -/
def columnNumber (letters : List Char) : Nat :=
  letters.foldl (fun number c => 26 * number + letterValue c) 0

/-- The capital letter of a digit, counted from zero. -/
def capital (digit : Nat) : Char := Char.ofNat ('A'.toNat + digit)

/-- The capital letters that name a column number; zero names nothing. -/
def columnLetters : Nat → List Char
  | 0 => []
  | number + 1 => columnLetters (number / 26) ++ [capital (number % 26)]
termination_by number => number
decreasing_by exact Nat.lt_succ_of_le (Nat.div_le_self number 26)

end Gridcalc.Address
