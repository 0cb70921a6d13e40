import Gridcalc.Proofs.Address
import Gridcalc.Proofs.Dependency.Graph

/-! # Graphs of cells

The nodes of a graph are texts.  When every arrow lies between the addresses of two cells
(`DependencyGraph.OfCells`), the arrows are a relation between cells as well
(`DependencyGraph.CellReads`).  No two cells share an address, so it makes no difference whether
nodes are compared as texts or as cells: the ways between two addresses are those between the cells
(`OfCells.transGen_iff`), and a cycle of addresses is written out by the cells on it
(`OfCells.exists_cellLoop`).
-/
namespace Gridcalc.DependencyGraph
open Relation
variable {graph : DependencyGraph} {a b : String} {place reader cell : CellRef} {set : NodeSet}
  {path : List String}

/-! ### Graphs of cells -/

/-- A cell reads another one when there is an arrow between their addresses. -/
def CellReads (graph : DependencyGraph) (reader cell : CellRef) : Prop :=
  graph.Reads reader.address cell.address

/-- **Every arrow lies between the addresses of two cells.** -/
def OfCells (graph : DependencyGraph) : Prop :=
  ∀ a b, graph.Reads a b → ∃ reader cell : CellRef, reader.address = a ∧ cell.address = b

/-- **A cycle of cells written out**: different cells, each of which reads the next one and the last
one the first, which is repeated at the end. -/
def CellLoop (reads : CellRef → CellRef → Prop) (cells : List CellRef) : Prop :=
  ∃ first rest, cells = first :: (rest ++ [first]) ∧ (first :: rest).Nodup ∧ cells.IsChain reads

namespace OfCells

/-- A way between nodes that begins at a cell goes through cells. -/
theorem exists_transGen (h : graph.OfCells) (hway : TransGen graph.Reads reader.address b) :
    ∃ cell : CellRef, cell.address = b ∧ TransGen graph.CellReads reader cell := by
  induction hway with
  | single hread =>
    obtain ⟨-, cell, -, rfl⟩ := h _ _ hread
    exact ⟨cell, rfl, .single hread⟩
  | tail _ hread ih =>
    obtain ⟨middle, rfl, hfront⟩ := ih
    obtain ⟨-, cell, -, rfl⟩ := h _ _ hread
    exact ⟨cell, rfl, hfront.tail hread⟩

/-- **Ways between addresses are ways between cells.** -/
theorem transGen_iff (h : graph.OfCells) :
    TransGen graph.Reads reader.address cell.address ↔ TransGen graph.CellReads reader cell := by
  constructor
  · intro hway
    obtain ⟨other, haddress, hcells⟩ := h.exists_transGen hway
    exact CellRef.address_injective haddress ▸ hcells
  · exact TransGen.lift CellRef.address (fun _ _ hread => hread) _ _

/-- There is no cycle of addresses exactly when there is no cycle of cells. -/
theorem acyclic_iff (h : graph.OfCells) :
    graph.Acyclic ↔ ∀ cell, ¬ TransGen graph.CellReads cell cell := by
  constructor
  · exact fun ha cell hcycle => ha cell.address (h.transGen_iff.mpr hcycle)
  · intro hcells node hcycle
    obtain ⟨next, hread, -⟩ := TransGen.head'_iff.mp hcycle
    obtain ⟨cell, -, rfl, -⟩ := h _ _ hread
    exact hcells cell (h.transGen_iff.mp hcycle)

/-- Nodes written out with an arrow from each to the next are cells, all but the last at least. -/
theorem exists_cells (h : graph.OfCells) : ∀ {rest : List String} {a b : String},
    (a :: (rest ++ [b])).IsChain graph.Reads →
      ∃ cells : List CellRef, cells.map CellRef.address = a :: rest
  | [], a, b, hchain => by
    obtain ⟨reader, -, rfl, -⟩ := h _ _ (List.isChain_cons_cons.mp hchain).1
    exact ⟨[reader], rfl⟩
  | c :: rest, a, b, hchain => by
    obtain ⟨hread, hrest⟩ := List.isChain_cons_cons.mp hchain
    obtain ⟨reader, -, rfl, -⟩ := h _ _ hread
    obtain ⟨cells, hcells⟩ := exists_cells h hrest
    exact ⟨reader :: cells, congrArg (reader.address :: ·) hcells⟩

/-- **A cycle of addresses is a cycle of cells.** -/
theorem exists_cellLoop (h : graph.OfCells) (hloop : graph.reads.IsLoop path) :
    ∃ cells : List CellRef, path = cells.map CellRef.address ∧ CellLoop graph.CellReads cells := by
  obtain ⟨node, rest, rfl, hnodup, hchain⟩ := hloop
  obtain ⟨cells, hcells⟩ := h.exists_cells hchain
  obtain ⟨first, others, rfl, rfl, rfl⟩ := List.map_eq_cons_iff.mp hcells
  have hpath : first.address :: (others.map CellRef.address ++ [first.address]) =
      (first :: (others ++ [first])).map CellRef.address := by
    simp
  rw [hpath] at hchain ⊢
  rw [← List.map_cons] at hnodup
  exact ⟨_, rfl, first, others, rfl, hnodup.of_map _, (List.isChain_map CellRef.address).mp hchain⟩

/-! ### Replacing what a cell reads -/

/-- A cell may be given cells to read. -/
theorem rewire (h : graph.OfCells) (hset : ∀ a ∈ set, ∃ cell : CellRef, cell.address = a) :
    (graph.rewire place.address set).OfCells := by
  intro a b hread
  by_cases ha : a = place.address
  · rw [ha, reads_rewire_self] at hread
    obtain ⟨cell, hcell⟩ := hset b hread
    exact ⟨place, cell, ha.symm, hcell⟩
  · exact h a b ((reads_rewire_of_ne ha).mp hread)

end OfCells

/-- Which cell reads which after one of them was given other cells to read. -/
def CellReadsWith (graph : DependencyGraph) (place : CellRef) (given : CellRef → Prop)
    (reader cell : CellRef) : Prop :=
  if reader = place then given cell else graph.CellReads reader cell

theorem cellReads_rewire {given : CellRef → Prop}
    (hset : ∀ cell : CellRef, cell.address ∈ set ↔ given cell) :
    (graph.rewire place.address set).CellReads = graph.CellReadsWith place given := by
  funext reader cell
  apply propext
  rw [CellReads, CellReadsWith]
  by_cases hreader : reader = place
  · rw [if_pos hreader, hreader, reads_rewire_self, hset]
  · rw [if_neg hreader, reads_rewire_of_ne (CellRef.address_injective.ne hreader)]
    rfl

end Gridcalc.DependencyGraph
