import Gridcalc.Text.Blank

/-! # Cells

A cell holds what was entered and what it shows. Text that begins with an equals sign is
a formula, and shows what was last computed for it; any other text shows itself. -/

namespace Gridcalc

/-- A cell of the sheet. -/
structure Cell where
  /-- The text as entered, a formula or a literal. -/
  input : Option String := none
  /-- The text that the cell shows. -/
  value : Option String := none
  /-- The input at the time when the value was last computed. -/
  calculated : Option String := none
deriving DecidableEq, Inhabited

namespace Cell

/-- A cell with nothing in it. -/
def blank : Cell := {}

/-- A cell that shows the text entered. -/
def literal (text : String) : Cell := { input := some text, value := some text }

/-- A cell whose formula has not been computed. -/
def formula (text : String) : Cell := { input := some text }

/-- Whether a text begins with an equals sign. -/
def isFormulaText (text : String) : Bool := text.toList.head? = some '='

/-- The cell for a text typed by the user: blanks around it do not count, nothing at all
leaves the cell blank, and an equals sign makes it a formula. -/
def ofInput (typed : String) : Cell :=
  let text := Text.trim typed
  if text.isEmpty then blank
  else if isFormulaText text then formula text
  else literal text

/-- The formula of the cell, if what was entered is one. -/
def formula? (cell : Cell) : Option String := cell.input.filter isFormulaText

/-- Whether what was entered is a formula. -/
def isFormula (cell : Cell) : Bool := cell.formula?.isSome

/-- Whether the formula is not the one that the value was computed for. -/
def isStale (cell : Cell) : Bool := cell.isFormula && cell.input != cell.calculated

/-- Records that the value belongs to the present formula. -/
def markFresh (cell : Cell) : Cell := { cell with calculated := cell.input }

/-- The text that the cell shows. -/
def display (cell : Cell) : String := cell.value.getD ""

/-- The text to edit. -/
def inputText (cell : Cell) : String := cell.input.getD ""

end Cell
end Gridcalc
