import Gridcalc.Address.Column
import Gridcalc.Text.Quoted

/-! # Cell references

A cell is named by a column and a row. Inside the program both are 64-bit words
counted from zero; in text the column is a run of letters and the row a decimal
number, both counted from one. A cell has one *canonical* address, with capital
letters and no leading zeros, and the dependency graph knows the cell by that text.
The last column and the last row have an address that does not read back, because its
number is beyond `CellRef.limit`. -/

namespace Gridcalc

/-- A cell of the sheet, by its coordinates counted from zero. -/
structure CellRef where
  /-- Rows above this cell. -/
  row : UInt64
  /-- Columns to the left of this cell. -/
  col : UInt64
deriving DecidableEq, Inhabited

/-- What is wrong with an address. -/
inductive AddressFault where
  /-- It does not begin with a letter. -/
  | missingColumn
  /-- Nothing follows the letters. -/
  | missingRow
  /-- What follows the letters is not a row number: not all digits, zero, or too large. -/
  | invalidRow
  /-- The letters name a column beyond the last one. -/
  | columnOverflow
deriving DecidableEq

/-- A text that names no cell, and why. -/
structure AddressError where
  fault : AddressFault
  text : String
deriving DecidableEq

/-- The reason a fault gives to the user. -/
def AddressFault.reason : AddressFault → String
  | missingColumn => "missing column letters"
  | missingRow => "missing row number"
  | invalidRow => "row must be a positive integer"
  | columnOverflow => "column out of range"

/-- The message shows the refused text quoted. -/
def AddressError.message (error : AddressError) : String :=
  "Invalid cell reference " ++ Text.quoteText error.text ++ ": " ++ error.fault.reason

namespace CellRef

/-- Cells are listed row by row, and within a row from left to right. -/
instance : Ord CellRef := ⟨fun a b => (compare a.row b.row).then (compare a.col b.col)⟩

instance : Std.TransOrd CellRef :=
  inferInstanceAs
    (Std.TransCmp (compareLex (compareOn CellRef.row) (compareOn CellRef.col)))

instance : Std.LawfulEqOrd CellRef where
  eq_of_compare {a b} h := by
    obtain ⟨hr, hc⟩ := Ordering.then_eq_eq.mp h
    cases a
    cases b
    simp_all

/-- An address can name columns and rows with positive numbers up to this one. -/
def limit : Nat := 18446744073709551615

/-- The canonical address of a cell. -/
def address (cell : CellRef) : String :=
  String.ofList (Address.columnLetters (cell.col.toNat + 1)) ++ toString (cell.row.toNat + 1)

/-- Reads an address: letters in either case, then a row number that may have
leading zeros. Of several faults the first counts: no letters, nothing behind the
letters, a column beyond the last, no proper row number. -/
def parse (text : String) : Except AddressError CellRef :=
  let letters := text.toList.takeWhile Char.isAlpha
  let digits := text.toList.dropWhile Char.isAlpha
  let column := Address.columnNumber letters
  let row := Nat.ofDigitChars 10 digits 0
  if letters.isEmpty then .error ⟨.missingColumn, text⟩
  else if digits.isEmpty then .error ⟨.missingRow, text⟩
  else if limit < column then .error ⟨.columnOverflow, text⟩
  else if !digits.all Char.isDigit || row = 0 || limit < row then .error ⟨.invalidRow, text⟩
  else .ok ⟨.ofNat (row - 1), .ofNat (column - 1)⟩

/-- The canonical address of the cell that a text names. -/
def canonical (text : String) : Except AddressError String :=
  (parse text).map address

end CellRef
end Gridcalc
