import Gridcalc.Proofs.Document.Interruption

/-! # Nodes and cells

The graph of a document knows a cell by its address alone.  That is enough to tell all cells apart,
those of the last column and the last row included, although the address of such a cell does not
read back (`CellRef.parse_address`).  A node that was put into the graph by any calls is therefore
the node of exactly one cell.
-/
namespace Gridcalc
namespace Document

/-- **Printed coordinates read back, and no two cells share a node.**  Only the greatest number of
64 bits is too large for a column or a row that is counted from one: then the column is refused, or
the row if the column is not.  Different cells have different addresses all the same, so after any
calls every node of the graph belongs to one cell. -/
theorem coordinates_survive_printing :
    (∀ cell : CellRef, CellRef.parse cell.address =
      if cell.col = 18446744073709551615 then .error ⟨.columnOverflow, cell.address⟩
      else if cell.row = 18446744073709551615 then .error ⟨.invalidRow, cell.address⟩
      else .ok cell) ∧
    Function.Injective CellRef.address ∧
    ∀ (limits : Limits) (operations : List Operation),
      ∀ node ∈ ((fresh limits).operated operations).graph.nodes,
        ∃! cell : CellRef, cell.address = node := by
  have hlast : ∀ number : UInt64, number.toNat = CellRef.limit ↔
      number = 18446744073709551615 := fun number => UInt64.toNat_inj (b := 18446744073709551615)
  refine ⟨fun cell => ?_, CellRef.address_injective, fun limits operations node hnode => ?_⟩
  · rw [CellRef.parse_address]
    unfold CellRef.IsLast CellRef.lastFault
    simp only [hlast]
    by_cases hcol : cell.col = 18446744073709551615
    · simp only [hcol, true_or, if_true]
    · simp only [hcol, false_or, if_false]
  · obtain ⟨cell, haddress, -⟩ := address_of_mem_nodes
      (intact_operated (intact_fresh limits) operations)
      (readsNamed_operated (Grid.readsNamed_of_graph_empty rfl) (intact_fresh limits) operations)
      hnode
    exact ⟨cell, haddress, fun other hother =>
      CellRef.address_injective (hother.trans haddress.symm)⟩

set_option maxRecDepth 100000 in
/-- A formula in the last column has a node, and no other cell has the same. -/
theorem lastColumn_alone :
    lastColumn.address ∈ ((fresh {}).operated overreachingRun).graph.nodes ∧
      ∃! cell : CellRef, cell.address = lastColumn.address := by
  have hnode : lastColumn.address ∈ ((fresh {}).operated overreachingRun).graph.nodes := by
    decide +kernel
  obtain ⟨-, -, hunique⟩ := coordinates_survive_printing
  exact ⟨hnode, hunique {} overreachingRun _ hnode⟩

end Document
end Gridcalc
