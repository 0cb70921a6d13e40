import Gridcalc.Proofs.Dependency.Cells
import Gridcalc.Proofs.Document.Interruption
import Gridcalc.Proofs.Formula.CellWords

/-! # Checks on names are checks on cells

A formula refers to the address of a cell exactly when one of its words names the cell, and the
graph of a document is a graph of cells after any calls (`Document.ofCells_operated`).  So a formula
is rejected for a cycle of cells, although it is found by comparing addresses
(`DependencyGraph.OfCells.setReads_formula`).  It makes no difference how the cells are spelled in
the formula, or how deep inside of it they stand.
-/
namespace Gridcalc

namespace DependencyGraph.OfCells
open Relation
variable {graph : DependencyGraph} {formula : String} {e : Formula.Expr}

/-- **The cycles that a formula makes are cycles of cells.**  It is accepted when no cell reads
itself through others once its cell reads what it names, and a cycle is reported by the cells on
it. -/
theorem setReads_formula (h : graph.OfCells) (hparse : Formula.parse formula = .ok e)
    (place : CellRef) :
    ((graph.setReads place.address e.references).1 = .ok () ↔
      ∀ cell, ¬ TransGen (graph.CellReadsWith place (Formula.Names formula)) cell cell) ∧
    ∀ path, (graph.setReads place.address e.references).1 = .error (.cycle path) →
      ∃ cells : List CellRef, path = cells.map CellRef.address ∧
        CellLoop (graph.CellReadsWith place (Formula.Names formula)) cells := by
  have hreads : (graph.rewire place.address e.references).CellReads =
      graph.CellReadsWith place (Formula.Names formula) :=
    cellReads_rewire fun _ => Formula.mem_references_iff_names hparse
  have hcells : (graph.rewire place.address e.references).OfCells := h.rewire fun a ha => by
    obtain ⟨cell, -, haddress⟩ := (Formula.mem_references_iff hparse).mp ha
    exact ⟨cell, haddress⟩
  constructor
  · rw [setReads_fst_eq_ok_iff, hcells.acyclic_iff, hreads]
  · intro path hpath
    obtain ⟨hself, -⟩ | ⟨found, hfound, hcycle⟩ := setReads_fst_eq_error hpath
    · cases hself
    · obtain rfl := CycleError.cycle.inj hfound
      rw [← hreads]
      exact hcells.exists_cellLoop (Adjacency.isLoop_of_cycle? hcycle)

end DependencyGraph.OfCells

namespace Document
open Relation

/-- After any calls the arrows of the graph lie between cells. -/
theorem ofCells_operated (limits : Limits) (operations : List Operation) :
    ((fresh limits).operated operations).graph.OfCells := by
  intro a b hread
  have hintact := intact_operated (intact_fresh limits) operations
  have hnamed := readsNamed_operated (Grid.readsNamed_of_graph_empty rfl) (intact_fresh limits)
    operations
  obtain ⟨reader, -, -, hreader⟩ := hintact.source a b hread
  obtain ⟨cell, -, hcell⟩ := hnamed a b hread
  exact ⟨reader, cell, hreader, hcell⟩

/-- **References are names of cells, and checks on them are checks on cells.**  Every reference of a
formula is read as a cell and printed again as it is; no other cell has a node of that name, and a
lookup by it gives the value of this cell.  The cell tokens of a formula are words of its text in
capitals, and its cell nodes are the same words from left to right, in capitals and without zeros in
front of the row.  Each of these words names a cell, and two of them have one address exactly when
they name one cell.  In a graph of cells, which the graph of a document is after any calls, a cycle
of addresses is a cycle of cells.  When a cell is given what a formula refers to, this is refused as
a self reference exactly when one of its words names the cell, and accepted exactly when no cell
comes to read itself, directly or through others; a cycle that is reported is one of cells. -/
theorem references_name_cells {formula : String} {e : Formula.Expr}
    (hparse : Formula.parse formula = .ok e) :
    (∀ a ∈ e.references, ∃ cell : CellRef, CellRef.parse a = .ok cell ∧ cell.address = a ∧
      (∀ other : CellRef, other.address = a → other = cell) ∧
      ∀ sheet : Sheet, sheet.lookup a = sheet[cell]?.bind Cell.value) ∧
    (∃ tokens, Formula.tokenize (Formula.body formula) = .ok tokens ∧
      tokens.kinds.filterMap Formula.Token.address? =
        (Formula.cellWords formula).map CellRef.capitals) ∧
    e.cells = (Formula.cellWords formula).map CellRef.plain ∧
    (∀ word ∈ Formula.cellWords formula,
      (∃ cell, CellRef.parse word = .ok cell ∧ CellRef.parse (CellRef.capitals word) = .ok cell ∧
        cell.address = CellRef.plain word) ∧
      ∀ other ∈ Formula.cellWords formula,
        CellRef.plain word = CellRef.plain other ↔ CellRef.parse word = CellRef.parse other) ∧
    (∀ graph : DependencyGraph, graph.OfCells →
      (graph.cycle? = none ↔ ∀ cell, ¬ TransGen graph.CellReads cell cell) ∧
      ∀ place : CellRef,
        ((graph.setReads place.address (Grid.referencesOf formula)).1 =
          .error (.selfReference place.address) ↔ Formula.Names formula place) ∧
        ((graph.setReads place.address (Grid.referencesOf formula)).1 = .ok () ↔
          ∀ cell, ¬ TransGen (graph.CellReadsWith place (Formula.Names formula)) cell cell) ∧
        ∀ path, (graph.setReads place.address (Grid.referencesOf formula)).1 =
            .error (.cycle path) → ∃ cells : List CellRef, path = cells.map CellRef.address ∧
          DependencyGraph.CellLoop (graph.CellReadsWith place (Formula.Names formula)) cells) ∧
    ∀ limits operations, ((fresh limits).operated operations).graph.OfCells := by
  have hreferences : Grid.referencesOf formula = e.references := by
    rw [Grid.referencesOf, Formula.references, hparse]
    rfl
  obtain ⟨tokens, htokens, -⟩ := Formula.bind_eq_ok (Formula.parse_eq_ok.mp hparse)
  obtain ⟨hcapitals, hshape⟩ := Formula.capitals_cellWords htokens
  obtain ⟨hcells, hwords⟩ := Formula.cells_of_parse hparse
  refine ⟨fun a ha => ?_, ⟨tokens, htokens, hcapitals⟩, hcells,
    fun word hword => ⟨?_, fun other hother => ?_⟩,
    fun graph hgraph => ⟨?_, fun place => ?_⟩, ofCells_operated⟩
  · obtain ⟨cell, hcell, rfl⟩ := Formula.canonical_of_mem_references hparse ha
    refine ⟨cell, hcell, rfl, fun other hother => CellRef.address_injective hother, fun sheet => ?_⟩
    rw [Sheet.lookup, hcell]
  · obtain ⟨cell, hcell⟩ := hwords word hword
    obtain ⟨letters, digits, hspelled⟩ := hshape word hword
    exact ⟨cell, hcell, (CellRef.parse_capitals hspelled).mpr hcell, CellRef.address_eq_plain hcell⟩
  · obtain ⟨cell, hcell⟩ := hwords word hword
    obtain ⟨found, hfound⟩ := hwords other hother
    exact CellRef.plain_eq_iff hcell hfound
  · exact Adjacency.cycle?_eq_none_iff.trans hgraph.acyclic_iff
  · rw [hreferences]
    exact ⟨DependencyGraph.setReads_fst_eq_self_iff.trans
      (Formula.mem_references_iff_names hparse), hgraph.setReads_formula hparse place⟩

/-- A formula that names `A1` in two spellings, and `AB7`; the text in it is no cell. -/
def paddedFormula : String := "=mmax(a1, -(A01 + ab007)) = \"C1\""

/-- `AB7` reads `C1`. -/
def spelledRun : List Operation := [.enter ⟨6, 27⟩ "=c01"]

set_option maxRecDepth 100000 in
/-- Entered into `A1` the formula is a self reference, and entered into `C1` it closes a cycle. -/
theorem paddedFormula_names :
    (∃ e, Formula.parse paddedFormula = .ok e ∧ e.cells = ["A1", "A1", "AB7"]) ∧
      CellRef.parse "a1" = CellRef.parse "A01" ∧
      Formula.Names paddedFormula ⟨0, 0⟩ ∧
      ∃ cells : List CellRef, ["AB7", "C1", "AB7"] = cells.map CellRef.address ∧
        DependencyGraph.CellLoop (((fresh {}).operated spelledRun).graph.CellReadsWith ⟨0, 2⟩
          (Formula.Names paddedFormula)) cells := by
  have hread : (Formula.parse paddedFormula).toOption.isSome = true := by decide +kernel
  have hwords : Formula.cellWords paddedFormula = ["a1", "A01", "ab007"] := by decide +kernel
  cases hparse : Formula.parse paddedFormula with
  | error fault =>
    rw [hparse] at hread
    cases hread
  | ok e =>
    obtain ⟨-, -, hcells, hsame, hchecks, hgraphs⟩ := references_name_cells hparse
    obtain ⟨-, hplaces⟩ := hchecks _ (hgraphs {} spelledRun)
    obtain ⟨hself, -, -⟩ := hplaces ⟨0, 0⟩
    obtain ⟨-, -, hloop⟩ := hplaces ⟨0, 2⟩
    rw [hwords] at hcells hsame
    refine ⟨⟨e, rfl, hcells.trans (by decide +kernel)⟩, ?_, hself.mp (by decide +kernel),
      hloop _ (by decide +kernel)⟩
    exact ((hsame "a1" (by decide)).2 "A01" (by decide)).mp (by decide +kernel)

end Document
end Gridcalc
