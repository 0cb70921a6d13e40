import Gridcalc.Address.Basic
import Gridcalc.Sheet.Cell
import Std.Data.ExtTreeMap

/-! # The sheet

The cells that were ever written, by coordinates, in row-major order. A cell that was
emptied stays as a blank cell. -/

namespace Gridcalc

/-- The stored cells. -/
abbrev Sheet := Std.ExtTreeMap CellRef Cell

namespace Sheet

/-- The text that a cell shows, empty for a cell that is not stored. -/
def displayAt (sheet : Sheet) (place : CellRef) : String := (sheet[place]?.map Cell.display).getD ""

/-- The formula of a stored cell. -/
def formulaAt? (sheet : Sheet) (place : CellRef) : Option String := sheet[place]?.bind Cell.formula?

/-- The value stored under an address; a text that names no cell has none. -/
def lookup (sheet : Sheet) (address : String) : Option String :=
  match CellRef.parse address with
  | .ok place => sheet[place]?.bind Cell.value
  | .error _ => none

/-- Writes a computed value into a cell, which then counts as calculated. -/
def writeValue (sheet : Sheet) (place : CellRef) (value : String) : Sheet :=
  let cell := sheet.getD place .blank
  sheet.insert place { cell with value := some value }.markFresh

end Sheet
end Gridcalc
