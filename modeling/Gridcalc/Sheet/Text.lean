import Gridcalc.Sheet.Basic
import Gridcalc.Text.Lines

/-! # Sheet files

A sheet file holds one cell a line: an address, a colon, and what to enter into the
cell. Blank lines and lines that begin with `#` are passed over. A later line for a
cell replaces an earlier one, but a line with nothing to enter does not.

Written files begin with a comment and list the cells in row-major order. The same
form, with values in the place of inputs, serves as the report of a sheet. -/

namespace Gridcalc

/-- Why a line is not a cell. -/
inductive LineFault where
  /-- The line has no colon. -/
  | missingColon
  /-- What stands before the first colon names no cell. -/
  | badAddress (error : AddressError)
deriving DecidableEq

/-- The text of a line fault. -/
def LineFault.message : LineFault → String
  | missingColon => "Expected 'CELLREF: INPUT' format"
  | badAddress error => "Invalid cell reference " ++ error.text ++ ": " ++ error.message

/-- The first line that is not a cell, counted from one over all lines. -/
structure LineError where
  line : Nat
  fault : LineFault
deriving DecidableEq

namespace Sheet

/-- What a line enters: nothing, or a cell and its text. -/
def readLine (line : List Char) : Except LineFault (Option (CellRef × Cell)) :=
  let line := Text.trimChars line
  if line.isEmpty || line.head? = some '#' then .ok none
  else
    match Text.cutAt ':' line with
    | none => .error .missingColon
    | some (name, input) =>
      match CellRef.parse (String.ofList (Text.trimChars name)) with
      | .error error => .error (.badAddress error)
      | .ok place => .ok (some (place, Cell.ofInput (String.ofList input)))

/-- Enters the lines of a file, the first of which has the given number, into a sheet. -/
def readLines (number : Nat) (sheet : Sheet) : List (List Char) → Except LineError Sheet
  | [] => .ok sheet
  | line :: rest =>
    match readLine line with
    | .error fault => .error ⟨number, fault⟩
    | .ok none => readLines (number + 1) sheet rest
    | .ok (some (place, cell)) =>
      readLines (number + 1) (if cell = .blank then sheet else sheet.insert place cell) rest

/-- **The sheet that a file's text describes.** Its formulas have not been computed. -/
def ofText (content : String) : Except LineError Sheet :=
  readLines 1 ∅ (Text.lines content.toList)

/-- One line for every cell that has a text of some kind. -/
def cellLines (text : Cell → String) (sheet : Sheet) : List String :=
  sheet.toList.filterMap fun (place, cell) =>
    let shown := text cell
    if shown.isEmpty then none else some (place.address ++ ": " ++ shown)

/-- The text of a sheet file. -/
def toText (sheet : Sheet) : String :=
  Text.unlines ("# Cubecell Spreadsheet" :: sheet.cellLines Cell.inputText)

/-- The text of a report of the values. -/
def report (sheet : Sheet) : String :=
  Text.unlines ("# Cubecell values" :: sheet.cellLines Cell.display)

end Sheet
end Gridcalc
