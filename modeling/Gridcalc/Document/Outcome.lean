import Gridcalc.Dependency.Graph
import Gridcalc.Files
import Gridcalc.Formula.Error
import Gridcalc.Sheet.Text

/-! # Outcomes of document operations

What an operation on a document answers: an error, what the calculation of one cell did,
or how many formulas of a sheet came out in which way. -/

namespace Gridcalc

/-- Why an operation on a document failed. -/
inductive DocumentError where
  /-- A file could not be read or written. -/
  | file (path : String) (fault : FileFault)
  /-- A line of a sheet file is not a cell. -/
  | line (error : LineError)
  /-- The document has no file to be saved to. -/
  | noPath
  /-- A text names no cell. -/
  | address (error : AddressError)
  /-- The dependents of a cell have no order of calculation. -/
  | blocked (cell : String)
deriving DecidableEq

/-- The text of a failed file operation. What the system itself reports is not repeated. -/
def FileFault.message (path : String) : FileFault → String
  | tooLarge size limit =>
    "IO error: Refusing to read " ++ path ++ ": sheet file too large (" ++ toString size ++
      " bytes, max " ++ toString limit ++ ")"
  | notFound | isFolder | notFolder | tooLong | hasNull | notText => "IO error"

/-- The text shown to the user. -/
def DocumentError.message : DocumentError → String
  | file path fault => fault.message path
  | line error =>
    "Parse error at line " ++ toString error.line ++ ": " ++ error.fault.message
  | noPath => "No file path set"
  | address error => error.message
  | blocked cell =>
    "Recalculation of cells depending on " ++ cell ++
      " blocked: the dependency graph contains a cycle"

/-- What the calculation of one cell did. -/
inductive CellOutcome where
  /-- The cell holds no formula, and nothing was computed. -/
  | literal
  /-- The formula was computed, and the cell shows this text. -/
  | computed (text : String)
  /-- The formula has no value, and the cell shows an error. -/
  | faulted (error : FormulaError)
  /-- The references of the formula would close a cycle. The cell shows an error, and the
  graph keeps the references it had. -/
  | rejected (error : CycleError)
deriving DecidableEq

/-- Whether the cell shows a proper value. -/
def CellOutcome.isOk : CellOutcome → Bool
  | literal | computed _ => true
  | faulted _ | rejected _ => false

/-- How many formulas of a sheet were computed, have no value, and were rejected. -/
structure Summary where
  computed : Nat := 0
  faulted : Nat := 0
  rejected : Nat := 0
deriving DecidableEq

end Gridcalc
