import Gridcalc.Document.Grid

/-! # Documents

A document is a grid together with the file it belongs to and whether it was changed.
Every edit leaves the cells calculated: the cell itself first, then all that depends on
it. -/

namespace Gridcalc

/-- A sheet being worked on. -/
structure Document extends Grid where
  /-- The file that the sheet was loaded from. -/
  path : Option String := none
  /-- Whether a cell was changed since the sheet was loaded or saved. -/
  modified : Bool := false

namespace Document

/-- The document with another grid. -/
def withGrid (document : Document) (grid : Grid) : Document := { document with toGrid := grid }

/-- Runs a calculation on the grid of a document. -/
def onGrid {α : Type} (document : Document) (run : Grid → α × Grid) : α × Document :=
  let (answer, grid) := run document.toGrid
  (answer, document.withGrid grid)

/-! ### Edits -/

/-- Calculates a cell and what depends on it. -/
def calculate (document : Document) (place : CellRef) :
    Except DocumentError CellOutcome × Document :=
  document.onGrid (·.calculate place)

/-- Calculates what depends on a cell. -/
def cascade (document : Document) (place : CellRef) :
    Except DocumentError Unit × Document :=
  document.onGrid (·.cascade place)

/-- Calculates the whole sheet. -/
def calculateAll (document : Document) : Except DocumentError Summary × Document :=
  document.onGrid Grid.calculateAll

/-- **Enters a text into a cell.** A formula is calculated; any other text takes the cell's
references away, and what depends on the cell is calculated from the new text. -/
def enter (document : Document) (place : CellRef) (typed : String) :
    Except DocumentError CellOutcome × Document :=
  let cell := Cell.ofInput typed
  let stored : Document :=
    { document with sheet := document.sheet.insert place cell, modified := true }
  if cell.isFormula then stored.calculate place
  else
    let cleared : Document :=
      { stored with graph := stored.graph.clearReads place.address }
    match cleared.cascade place with
    | (.ok (), after) => (.ok .literal, after)
    | (.error error, after) => (.error error, after)

/-- Enters a text into the cell of an address. -/
def enterAt (document : Document) (address typed : String) :
    Except DocumentError CellOutcome × Document :=
  match CellRef.parse address with
  | .ok place => document.enter place typed
  | .error error => (.error (.address error), document)

/-! ### Views -/

/-- The text that the cell of an address shows. -/
def display (document : Document) (address : String) : Except AddressError String :=
  (CellRef.parse address).map document.sheet.displayAt

/-- The value that a formula would have, which is not entered anywhere. -/
def preview (document : Document) (formula : String) : Except FormulaError Value :=
  document.evaluate formula

end Document
end Gridcalc
