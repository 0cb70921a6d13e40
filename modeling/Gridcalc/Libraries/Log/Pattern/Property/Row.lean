import Gridcalc.Text.Lines
import Gridcalc.Libraries.Text.Ranges

/-! # Tables of properties

A row of a table gives a set of characters its names, and puts it together from parts: sets
of other rows, further ranges, and ranges that do not belong to it. The names are in small
letters and without blanks, dashes and underscores.

Ranges are written as numbers in letters, to base 26 with the last digit a capital. There
are two numbers to a range: how far its first code point is from the first that it could be,
and how far its last one is from its first. -/

namespace Gridcalc.Log.Pattern

/-- A row of a table: the names, the names of the parts with a dash in front of those that
are taken out again, the further ranges, and the ranges that do not belong. -/
structure PropertyRow where
  names : String
  parts : String
  ranges : String
  except : String

/-- The numbers that letters spell, given the number that the digits so far are. -/
def lettersToNumbers (digits : Nat) : List Char → List Nat
  | [] => []
  | c :: rest =>
    if c.isUpper then (26 * digits + (c.toNat - 'A'.toNat)) :: lettersToNumbers 0 rest
    else lettersToNumbers (26 * digits + (c.toNat - 'a'.toNat)) rest

/-- The ranges that distances give, the first of which can begin at the given code point. -/
def distancesToRanges (start : Nat) : List Nat → List (Nat × Nat)
  | gap :: length :: rest =>
    let low := start + gap
    (low, low + length) :: distancesToRanges (low + length + 2) rest
  | _ => []

/-- The ranges that letters spell. -/
def spelledRanges (letters : String) : List (Nat × Nat) :=
  distancesToRanges 0 (lettersToNumbers 0 letters.toList)

namespace PropertyRow

/-- Whether a row has a name. -/
def isCalled (row : PropertyRow) (name : String) : Bool :=
  (Text.fields ' ' row.names).contains name

/-- The set of a row, given the sets of its parts. -/
def set (row : PropertyRow) (part : String → List (Nat × Nat)) : List (Nat × Nat) :=
  let parts := (Text.fields ' ' row.parts).map String.toList
  let added := parts.flatMap fun name =>
    if name.head? = some '-' then [] else part (String.ofList name)
  let removed := parts.flatMap fun name =>
    if name.head? = some '-' then part (String.ofList name.tail) else []
  Text.differenceRanges (added ++ spelledRanges row.ranges) (removed ++ spelledRanges row.except)

end PropertyRow

/-- The set with a name, by the first row that has it. The parts of a row are behind it. -/
def setIn : List PropertyRow → String → List (Nat × Nat)
  | [], _ => []
  | row :: rows, name => if row.isCalled name then row.set (setIn rows) else setIn rows name

end Gridcalc.Log.Pattern
