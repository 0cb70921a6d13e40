import Gridcalc.Proofs.Document.Intact
import Mathlib.Data.Set.Insert

/-! # What an edit leaves alone

Calculating a cell changes this cell and its arrows.  A cascade does so for every cell on its list,
and may stop at one whose address does not read back.  An address that does read back names the
cell that it is the address of, so no cell is touched whose address is not on the list
(`Grid.confined_calculateInOrder`).

The list is made of the nodes that lead to the edited cell once it has its new arrows.  These are
the nodes that led to it before, because a way to a cell uses the arrows of other cells only
(`DependencyGraph.transGen_of_kept`).  What earlier steps of the cascade do to the graph does not
matter, since the list is not computed again.

So an edit is confined to the cell and to what depended on it before the edit, whatever it answers
and whether or not the graph fits the formulas (`Document.enter_touches_dependents_only`).
-/
namespace Gridcalc

namespace Grid
open Relation
variable {grid base middle after : Grid} {place : CellRef} {touched larger : Set String}

/-- **Only these cells and their arrows may have changed.** -/
structure Confined (grid : Grid) (touched : Set String) (after : Grid) : Prop where
  untouched : ∀ place : CellRef, place.address ∉ touched → after.sheet[place]? = grid.sheet[place]?
  kept : ∀ a, a ∉ touched → after.graph.reads.targets a = grid.graph.reads.targets a

namespace Confined

theorem refl (grid : Grid) (touched : Set String) : grid.Confined touched grid :=
  ⟨fun _ _ => rfl, fun _ _ => rfl⟩

theorem trans (h₁ : grid.Confined touched middle) (h₂ : middle.Confined touched after) :
    grid.Confined touched after where
  untouched := fun place hplace => (h₂.untouched place hplace).trans (h₁.untouched place hplace)
  kept := fun a ha => (h₂.kept a ha).trans (h₁.kept a ha)

theorem mono (h : grid.Confined touched after) (hle : touched ⊆ larger) :
    grid.Confined larger after where
  untouched := fun place hplace => h.untouched place fun hmem => hplace (hle hmem)
  kept := fun a ha => h.kept a fun hmem => ha (hle hmem)

/-- Writing what a cell shows touches that cell only. -/
theorem present (h : grid.Confined {place.address} after) (text : String) :
    grid.Confined {place.address} (after.present place text) where
  untouched := by
    intro other hother
    rw [← h.untouched other hother]
    refine Sheet.getElem?_writeValue_of_ne ?_
    rintro rfl
    exact hother rfl
  kept := h.kept

end Confined

/-! ### Calculations -/

theorem confined_adopt (grid : Grid) (place : CellRef) (formula : String) :
    grid.Confined {place.address} (grid.adopt place formula) where
  untouched := fun _ _ => rfl
  kept := fun _ ha => DependencyGraph.targets_rewire_of_ne ha

/-- **Calculating a cell touches that cell only.** -/
theorem confined_calculateCell (hc : grid.graph.Coherent) (place : CellRef) :
    grid.Confined {place.address} (grid.calculateCell place).2 := by
  cases hformula : grid.sheet.formulaAt? place with
  | none =>
    rw [calculateCell_plain hformula]
    exact .refl _ _
  | some formula =>
    by_cases ha : (grid.adopt place formula).graph.Acyclic
    · rw [calculateCell_accepted hformula ha, evaluateInto_snd]
      exact (confined_adopt grid place formula).present _
    · obtain ⟨error, herror⟩ := calculateCell_rejected hc hformula ha
      rw [herror]
      exact (Confined.refl _ _).present _

/-- **A pass over addresses touches their cells only,** also when it stops early. -/
theorem confined_calculateInOrder (h : grid.Intact) (steps : List String)
    (hsteps : ∀ a ∈ steps, ∃ cell : CellRef, cell.address = a) :
    grid.Confined {a | a ∈ steps} (grid.calculateInOrder steps).2 := by
  induction steps generalizing grid with
  | nil => exact .refl _ _
  | cons a rest ih =>
    obtain ⟨⟨cell, rfl⟩, hrest⟩ := List.forall_mem_cons.mp hsteps
    rw [calculateInOrder]
    split
    · exact .refl _ _
    · rename_i found hparse
      obtain rfl := CellRef.eq_of_parse_address hparse
      have hcell := confined_calculateCell h.coherent found
      refine (hcell.mono ?_).trans ((ih (h.calculateCell found) hrest).mono ?_)
      · rintro _ rfl
        exact List.mem_cons_self
      · exact fun _ hmem => List.mem_cons_of_mem _ hmem

/-- **A cascade touches only what leads to its cell.** -/
theorem confined_cascade (h : grid.Intact) (place : CellRef) :
    grid.Confined {a | TransGen grid.graph.Reads a place.address} (grid.cascade place).2 := by
  rw [cascade]
  split
  · exact .refl _ _
  · rename_i order _
    have hway : ∀ a ∈ order.filter (grid.graph.allReaders place.address).contains,
        TransGen grid.graph.Reads a place.address := fun a ha =>
      (DependencyGraph.mem_allReaders h.coherent).mp
        (Std.ExtTreeSet.contains_iff_mem.mp (List.mem_filter.mp ha).2)
    refine (confined_calculateInOrder h _ fun a ha => ?_).mono hway
    -- A node that reads something is the address of a formula.
    obtain ⟨b, hab, -⟩ := TransGen.head'_iff.mp (hway a ha)
    obtain ⟨cell, -, -, he⟩ := h.source a b hab
    exact ⟨cell, he⟩

/-- **When one cell was replaced, a cascade from it touches only what led to it before.** -/
theorem Confined.cascade (h : base.Confined {place.address} grid) (hintact : grid.Intact) :
    base.Confined (insert place.address {a | TransGen base.graph.Reads a place.address})
      (grid.cascade place).2 := by
  have hway : ∀ a, TransGen grid.graph.Reads a place.address →
      TransGen base.graph.Reads a place.address := fun _ =>
    DependencyGraph.transGen_of_kept hintact.acyclic h.kept
  refine (h.mono ?_).trans ((confined_cascade hintact place).mono fun a ha => ?_)
  · exact Set.singleton_subset_iff.mpr (Set.mem_insert _ _)
  · exact Set.mem_insert_of_mem _ (hway a ha)

/-- **A formula put into an intact grid touches only what led to its cell before,** once it is
calculated and the change carried on. -/
theorem Confined.calculate {formula : String} (h : base.Confined {place.address} grid)
    (hbase : base.Intact) (hgraph : grid.graph = base.graph)
    (hformula : grid.sheet.formulaAt? place = some formula) :
    base.Confined (insert place.address {a | TransGen base.graph.Reads a place.address})
      (grid.calculate place).2 := by
  have hcell : base.Confined {place.address} (grid.calculateCell place).2 :=
    h.trans (confined_calculateCell (hgraph ▸ hbase.coherent) place)
  obtain hself | ⟨-, -, hcascade⟩ := grid.calculate_cases place
  · rw [hself]
    exact hcell.mono (Set.singleton_subset_iff.mpr (Set.mem_insert _ _))
  · rw [hcascade]
    refine hcell.cascade (hbase.calculateCell_stored hgraph (fun other hne => ?_) hformula)
    exact h.untouched other fun he => hne (CellRef.address_injective he)

end Grid

/-! ### Edits -/

namespace Document
open Relation
variable {document : Document}

/-- Storing a cell touches that cell only, and so does taking its arrows away. -/
theorem confined_insert (document : Document) (place : CellRef) (cell : Cell) :
    document.toGrid.Confined {place.address}
      { document.toGrid with sheet := document.sheet.insert place cell } where
  untouched := by
    intro other hother
    refine Sheet.getElem?_insert_of_ne ?_
    rintro rfl
    exact hother rfl
  kept := fun _ _ => rfl

/-- **An edit touches only the cell and what leads to it,** whatever it answers. -/
theorem confined_enter (h : document.Intact) (place : CellRef) (typed : String) :
    document.toGrid.Confined
      (insert place.address {a | TransGen document.graph.Reads a place.address})
      (document.enter place typed).2.toGrid := by
  have hinsert := confined_insert document place (Cell.ofInput typed)
  cases hformula : (Cell.ofInput typed).formula? with
  | none =>
    rw [enter_of_plain hformula]
    have hcleared : document.toGrid.Confined {place.address}
        { document.toGrid with
          sheet := document.sheet.insert place (Cell.ofInput typed)
          graph := document.graph.clearReads place.address } :=
      ⟨hinsert.untouched, fun _ ha => DependencyGraph.targets_rewire_of_ne ha⟩
    exact hcleared.cascade (h.insert_plain place (Cell.plain_ofInput hformula))
  | some formula =>
    rw [enter_of_formula hformula]
    exact hinsert.calculate h rfl (Sheet.formulaAt?_insert_self.trans hformula)

/-- **An edit touches only what depends on it,** after any calls and whatever it answers.  A cell
that does not depend on the edited one before the edit stays as it is, and so do its arrows.  In
no other cell does the input change, none comes or goes, and none without a formula changes at
all. -/
theorem enter_touches_dependents_only (limits : Limits) (operations : List Operation)
    (place : CellRef) (typed : String) {before after : Document}
    {answer : Except DocumentError CellOutcome}
    (hbefore : before = (fresh limits).operated operations)
    (henter : before.enter place typed = (answer, after)) :
    (∀ other : CellRef, other ≠ place →
      (other.address ∉ before.graph.allReaders place.address →
        after.sheet[other]? = before.sheet[other]?) ∧
      (after.sheet[other]?).map Cell.input = (before.sheet[other]?).map Cell.input ∧
      (before.sheet.formulaAt? other = none → after.sheet[other]? = before.sheet[other]?)) ∧
    ∀ node, node ≠ place.address → node ∉ before.graph.allReaders place.address →
      after.graph.reads.targets node = before.graph.reads.targets node := by
  have h : before.Intact := hbefore ▸ intact_operated (intact_fresh limits) operations
  have hafter : after = (before.enter place typed).2 := by rw [henter]
  subst hafter
  have hconfined := confined_enter h place typed
  have hsheet := recalculated_enter before place typed
  have hout : ∀ a, a ≠ place.address → a ∉ before.graph.allReaders place.address →
      a ∉ insert place.address {a | TransGen before.graph.Reads a place.address} := by
    rintro a hne hnot (he | hway)
    · exact hne he
    · exact hnot ((DependencyGraph.mem_allReaders h.coherent).mpr hway)
  refine ⟨fun other hne => ⟨fun hnot => ?_, ?_, fun hplain => ?_⟩,
    fun node hne hnot => hconfined.kept node (hout node hne hnot)⟩
  · exact hconfined.untouched _ (hout _ (fun he => hne (CellRef.address_injective he)) hnot)
  · rw [hsheet.input, Sheet.getElem?_insert_of_ne hne]
  · rw [hsheet.plain other, Sheet.getElem?_insert_of_ne hne]
    rw [Sheet.formulaAt?, Sheet.getElem?_insert_of_ne hne]
    exact hplain

/-- A formula in the last column reads `A1`, and so does `B1`; `D1` and `E1` have nothing to do with
them, and `A2` holds a formula that was rejected. -/
def bystanders : List Operation :=
  [.enter ⟨0, 0⟩ "1", .enter ⟨0, 1⟩ "=A1+1", .enter ⟨0, 2⟩ "=B1", .enter lastColumn "=A1",
    .enter ⟨0, 3⟩ "7", .enter ⟨0, 4⟩ "=D1*2", .enter ⟨1, 0⟩ "=A2"]

set_option maxRecDepth 100000 in
/-- A change of `A1` stops at the last column and leaves `E1` alone. -/
theorem bystanders_untouched :
    (((fresh {}).operated bystanders).enter ⟨0, 0⟩ "5").1 =
        .error (.address ⟨.columnOverflow, lastColumn.address⟩) ∧
      (((fresh {}).operated bystanders).enter ⟨0, 0⟩ "5").2.sheet[(⟨0, 4⟩ : CellRef)]? =
        ((fresh {}).operated bystanders).sheet[(⟨0, 4⟩ : CellRef)]? ∧
      (((fresh {}).operated bystanders).enter ⟨0, 0⟩ "5").2.graph.reads.targets "E1" =
        ((fresh {}).operated bystanders).graph.reads.targets "E1" := by
  obtain ⟨hcells, harrows⟩ := enter_touches_dependents_only {} bystanders ⟨0, 0⟩ "5" rfl rfl
  obtain ⟨huntouched, -, -⟩ := hcells ⟨0, 4⟩ (by decide)
  exact ⟨by decide +kernel, huntouched (by decide +kernel),
    harrows "E1" (by decide +kernel) (by decide +kernel)⟩

end Document
end Gridcalc
