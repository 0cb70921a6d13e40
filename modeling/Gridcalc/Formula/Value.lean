/-! # Values

A formula computes an exact integer, a truth value or a text. Wherever an operator
needs a number or a truth value it converts: truth values count as one and zero, a
text counts as the integer it spells and as zero when it spells none. -/

namespace Gridcalc

/-- What an expression evaluates to. -/
inductive Value where
  | number (value : Int)
  | bool (value : Bool)
  | text (content : String)
deriving DecidableEq

/-- The integer that characters spell: an optional sign and one or more digits, with
nothing before, between or behind. -/
def integer? (cs : List Char) : Option Int :=
  let digits := match cs with
    | '+' :: rest => rest
    | '-' :: rest => rest
    | _ => cs
  if digits.isEmpty || !digits.all Char.isDigit then none
  else
    let value : Int := Nat.ofDigitChars 10 digits 0
    some (if cs.head? = some '-' then -value else value)

namespace Value

/-- The value as a number. -/
def toNumber : Value → Int
  | number value => value
  | bool value => if value then 1 else 0
  | text content => (integer? content.toList).getD 0

/-- The value as a truth value: a number is true unless zero, a text unless empty. -/
def toBool : Value → Bool
  | number value => value != 0
  | bool value => value
  | text content => !content.isEmpty

/-- The text that shows the value in a cell. -/
def display : Value → String
  | number value => toString value
  | bool value => if value then "TRUE" else "FALSE"
  | text content => content

end Value

/-- What a cell shows when its formula has no value. -/
def errorText : String := "#ERROR"

end Gridcalc
