import Gridcalc.Dependency.Order
import Gridcalc.Document.Outcome
import Gridcalc.Formula.Expr.Eval
import Gridcalc.Formula.Expr.References

/-! # Calculation

The cells, the graph of their references, and the limits of evaluation make up the part
of a document that calculation reads and writes. A formula is calculated by taking its
references into the graph and evaluating it against what the cells show
(`Grid.calculateCell`). A change is carried on to everything that depends on it, in an
order in which each cell comes behind the cells it reads (`Grid.cascade`). A whole sheet
is calculated by taking in the references of every cell first and evaluating afterwards
(`Grid.calculateAll`).

A calculation that stops early keeps what it did so far, so every function here returns
the grid next to its answer. -/

namespace Gridcalc

/-- What calculation reads and writes. -/
structure Grid where
  sheet : Sheet := ∅
  graph : DependencyGraph := ∅
  limits : Limits := {}

namespace Grid

/-- The cells a formula reads. A text that does not read as a formula reads no cell; its
evaluation reports why. -/
def referencesOf (formula : String) : NodeSet := (Formula.references formula).toOption.getD ∅

/-- The value of a formula against what the cells show. -/
def evaluate (grid : Grid) (formula : String) : Except FormulaError Value :=
  Formula.evaluate grid.limits grid.sheet.lookup formula

/-- Writes what a cell is to show. -/
def present (grid : Grid) (place : CellRef) (text : String) : Grid :=
  { grid with sheet := grid.sheet.writeValue place text }

/-! ### One cell -/

/-- Evaluates a formula and shows its value, or an error, in a cell. -/
def evaluateInto (grid : Grid) (place : CellRef) (formula : String) : CellOutcome × Grid :=
  match grid.evaluate formula with
  | .ok value => (.computed value.display, grid.present place value.display)
  | .error error => (.faulted error, grid.present place errorText)

/-- Calculates a cell by itself: takes its references into the graph and evaluates it. A
cell whose references are refused shows an error and is not evaluated. -/
def calculateCell (grid : Grid) (place : CellRef) : CellOutcome × Grid :=
  match grid.sheet.formulaAt? place with
  | none => (.literal, grid)
  | some formula =>
    match grid.graph.setReads place.address (referencesOf formula) with
    | (.ok (), graph) => { grid with graph }.evaluateInto place formula
    | (.error error, graph) => (.rejected error, { grid with graph }.present place errorText)

/-! ### What depends on a cell -/

/-- Calculates the cells of a list of addresses in turn, and stops at a text that is no
address. -/
def calculateInOrder : List String → Grid → Except DocumentError Unit × Grid
  | [], grid => (.ok (), grid)
  | address :: rest, grid =>
    match CellRef.parse address with
    | .error error => (.error (.address error), grid)
    | .ok place => calculateInOrder rest (grid.calculateCell place).2

/-- **Calculates all cells that depend on a cell,** each behind the cells it reads. With a
cycle anywhere in the graph there is no such order, and nothing is calculated. -/
def cascade (grid : Grid) (place : CellRef) : Except DocumentError Unit × Grid :=
  match grid.graph.order? with
  | none => (.error (.blocked place.address), grid)
  | some order =>
    let affected := grid.graph.allReaders place.address
    grid.calculateInOrder (order.filter affected.contains)

/-- Calculates a cell and then all cells that depend on it. Nothing follows a cell without
a formula or a rejected one. -/
def calculate (grid : Grid) (place : CellRef) : Except DocumentError CellOutcome × Grid :=
  match grid.calculateCell place with
  | (.literal, grid) => (.ok .literal, grid)
  | (.rejected error, grid) => (.ok (.rejected error), grid)
  | (outcome, grid) =>
    match grid.cascade place with
    | (.ok (), grid) => (.ok outcome, grid)
    | (.error error, grid) => (.error error, grid)

/-! ### The whole sheet -/

/-- A sheet whose references are being taken in. -/
structure Linking where
  grid : Grid
  /-- The formulas whose references were accepted, the latest first. -/
  accepted : List (CellRef × String) := []
  /-- How many formulas were rejected. -/
  rejected : Nat := 0

/-- Takes in the references of one cell. A cell without a formula reads nothing, and a
cell whose references are refused shows an error. -/
def Linking.add (linking : Linking) (place : CellRef) (cell : Cell) : Linking :=
  let grid := linking.grid
  match cell.formula? with
  | none =>
    { linking with grid := { grid with graph := grid.graph.clearReads place.address } }
  | some formula =>
    match grid.graph.setReads place.address (referencesOf formula) with
    | (.ok (), graph) =>
      { linking with
        grid := { grid with graph }
        accepted := (place, formula) :: linking.accepted }
    | (.error _, graph) =>
      { linking with
        grid := { grid with graph }.present place errorText
        rejected := linking.rejected + 1 }

/-- Takes in the references of all cells, row by row. -/
def link (grid : Grid) : Linking :=
  grid.sheet.toList.foldl (fun linking entry => linking.add entry.1 entry.2) { grid }

/-- Puts an entry in front of the first one whose rank is not lower. -/
def insertByRank {α : Type} (entry : Nat × α) : List (Nat × α) → List (Nat × α)
  | [] => [entry]
  | other :: rest =>
    if entry.1 ≤ other.1 then entry :: other :: rest else other :: insertByRank entry rest

/-- The entries by rank; entries of one rank stay in their order. -/
def sortByRank {α : Type} (entries : List (Nat × α)) : List (Nat × α) :=
  entries.foldr insertByRank []

/-- Formulas in the order of calculation. One that no arrow touches has no place in the
order of the graph and comes with the first; ties keep the order of the sheet. -/
def arrange (order : List String) (formulas : List (CellRef × String)) :
    List (CellRef × String) :=
  let rank (place : CellRef) : Nat := (order.idxOf? place.address).getD 0
  (sortByRank (formulas.map fun entry => (rank entry.1, entry))).map (·.2)

/-- Evaluates formulas in turn, and counts those with a value and those without. -/
def evaluateEach : List (CellRef × String) → Summary × Grid → Summary × Grid
  | [], state => state
  | (place, formula) :: rest, (summary, grid) =>
    evaluateEach rest <|
      match grid.evaluateInto place formula with
      | (.computed _, grid) => ({ summary with computed := summary.computed + 1 }, grid)
      | (_, grid) => ({ summary with faulted := summary.faulted + 1 }, grid)

/-- **Takes in the references of every cell and evaluates every accepted formula.** The
graph is not emptied first: what a cell without an entry in the sheet reads stays in it. -/
def calculateAll (grid : Grid) : Except DocumentError Summary × Grid :=
  let linking := grid.link
  match linking.grid.graph.order? with
  | none => (.error (.blocked ((linking.grid.graph.cycle?.getD []).headD "")), linking.grid)
  | some order =>
    let (summary, grid) := evaluateEach (arrange order linking.accepted.reverse)
      ({ rejected := linking.rejected }, linking.grid)
    (.ok summary, grid)

end Grid
end Gridcalc
