import Gridcalc.Document.Basic
import Gridcalc.Proofs.Document.Cell
import Gridcalc.Proofs.Sheet.Text
import Mathlib.Logic.Function.Basic

/-! # What was entered stays

A calculation writes values of formulas and nothing else, whatever the graph is and wherever the
calculation stops (`Grid.recalculated_calculate`, `Grid.recalculated_cascade`).  So an edit
changes the input of its own cell only, whatever its answer is (`Document.inputAt_enter`).
-/
namespace Gridcalc

theorem eq_of_map_const_eq_ok {ε α β : Type} {answer : Except ε α} {value found : β}
    (h : answer.map (fun _ => value) = .ok found) : value = found := by
  cases answer with
  | error error => cases h
  | ok done => exact Except.ok.inj h

namespace Sheet
variable {before after sheet : Sheet} {place other : CellRef} {cell : Cell}

theorem inputAt_eq_getD (sheet : Sheet) (place : CellRef) :
    sheet.inputAt place = (((sheet[place]?).map Cell.input).getD none).getD "" := by
  rw [inputAt, Std.ExtTreeMap.getD_eq_getD_getElem?]
  cases sheet[place]? <;> rfl

/-- A calculation keeps all inputs. -/
theorem Recalculated.inputAt (h : Recalculated before after) (place : CellRef) :
    after.inputAt place = before.inputAt place := by
  rw [inputAt_eq_getD, inputAt_eq_getD, h.input]

theorem inputAt_insert : inputAt (sheet.insert place cell) =
    Function.update sheet.inputAt place cell.inputText := by
  funext other
  by_cases h : other = place
  · subst h
    rw [Function.update_self, inputAt_of_getElem? Std.ExtTreeMap.getElem?_insert_self]
  · rw [Function.update_of_ne h, inputAt_eq_getD, getElem?_insert_of_ne h, ← inputAt_eq_getD]

end Sheet

namespace Grid
variable {grid : Grid} {place : CellRef}

/-! ### Calculations -/

theorem recalculated_calculateCell (grid : Grid) (place : CellRef) :
    Sheet.Recalculated grid.sheet (grid.calculateCell place).2.sheet := by
  cases hformula : grid.sheet.formulaAt? place with
  | none =>
    rw [calculateCell_plain hformula]
    exact .refl _
  | some formula =>
    rw [calculateCell, hformula]
    simp only
    split
    · rw [evaluateInto_snd]
      exact .writeValue hformula
    · exact .writeValue hformula

/-- **A pass over any list of texts writes values only.** -/
theorem recalculated_calculateInOrder (steps : List String) (grid : Grid) :
    Sheet.Recalculated grid.sheet (grid.calculateInOrder steps).2.sheet := by
  induction steps generalizing grid with
  | nil => exact .refl _
  | cons address rest ih =>
    rw [calculateInOrder]
    split
    · exact .refl _
    · exact (recalculated_calculateCell grid _).trans (ih _)

theorem recalculated_cascade (grid : Grid) (place : CellRef) :
    Sheet.Recalculated grid.sheet (grid.cascade place).2.sheet := by
  rw [cascade]
  split
  · exact .refl _
  · exact recalculated_calculateInOrder _ grid

/-- A calculation that evaluates its cell carries the change on. -/
theorem calculate_of_evaluated (grid : Grid) (place : CellRef)
    (hliteral : (grid.calculateCell place).1 ≠ .literal)
    (hrejected : ∀ error, (grid.calculateCell place).1 ≠ .rejected error) :
    grid.calculate place = ((grid.calculateCell place).2.cascade place).map
      (·.map fun _ => (grid.calculateCell place).1) id := by
  rw [calculate]
  split
  · rename_i heq
    rw [heq] at hliteral
    exact absurd rfl hliteral
  · rename_i error after heq
    rw [heq] at hrejected
    exact absurd rfl (hrejected error)
  · rename_i outcome after _ _ heq
    rw [heq]
    cases after.cascade place with
    | mk answer last => cases answer <;> rfl

/-- **A calculation ends with the cell itself,** if that has no formula or is rejected, or carries
the change on. -/
theorem calculate_cases (grid : Grid) (place : CellRef) :
    grid.calculate place = (.ok (grid.calculateCell place).1, (grid.calculateCell place).2) ∨
    (grid.calculateCell place).1 ≠ .literal ∧
      (∀ error, (grid.calculateCell place).1 ≠ .rejected error) ∧
      grid.calculate place = ((grid.calculateCell place).2.cascade place).map
        (·.map fun _ => (grid.calculateCell place).1) id := by
  cases hcell : grid.calculateCell place with
  | mk outcome after =>
    have hcascade := calculate_of_evaluated grid place
    rw [hcell] at hcascade
    cases outcome with
    | literal => exact Or.inl (by rw [calculate, hcell])
    | rejected error => exact Or.inl (by rw [calculate, hcell])
    | computed text => exact Or.inr ⟨nofun, nofun, hcascade nofun nofun⟩
    | faulted error => exact Or.inr ⟨nofun, nofun, hcascade nofun nofun⟩

/-- **What comes back from a calculation is the outcome of the cell,** if the cascade goes
through. -/
theorem fst_calculateCell_of_calculate {outcome : CellOutcome}
    (h : (grid.calculate place).1 = .ok outcome) : (grid.calculateCell place).1 = outcome := by
  obtain hself | ⟨-, -, hcascade⟩ := grid.calculate_cases place
  · rw [hself] at h
    exact Except.ok.inj h
  · rw [hcascade] at h
    exact eq_of_map_const_eq_ok h

theorem recalculated_calculate (grid : Grid) (place : CellRef) :
    Sheet.Recalculated grid.sheet (grid.calculate place).2.sheet := by
  have hcell := recalculated_calculateCell grid place
  obtain h | ⟨-, -, h⟩ := grid.calculate_cases place
  · rw [h]
    exact hcell
  · rw [h]
    exact hcell.trans (recalculated_cascade _ place)

end Grid

/-! ### Edits -/

namespace Document
variable {document : Document} {place : CellRef} {typed formula : String}

/-- A formula that is entered is stored and calculated. -/
theorem enter_of_formula (h : (Cell.ofInput typed).formula? = some formula) :
    document.enter place typed = calculate { document with
      sheet := document.sheet.insert place (Cell.ofInput typed)
      modified := true } place := by
  have hcell : (Cell.ofInput typed).isFormula = true := by rw [Cell.isFormula, h]; rfl
  simp only [enter, hcell, if_true]

/-- Any other text is stored, the arrows of the cell are taken away, and the change is carried
on. -/
theorem enter_of_plain (h : (Cell.ofInput typed).formula? = none) :
    document.enter place typed = (cascade { document with
      sheet := document.sheet.insert place (Cell.ofInput typed)
      graph := document.graph.clearReads place.address
      modified := true } place).map (·.map fun _ => .literal) id := by
  have hcell : (Cell.ofInput typed).isFormula = false := by rw [Cell.isFormula, h]; rfl
  simp only [enter, hcell, Bool.false_eq_true, if_false]
  split
  · rename_i heq
    rw [heq]
    rfl
  · rename_i heq
    rw [heq]
    rfl

/-- **An edit writes values only, once its cell is stored.** -/
theorem recalculated_enter (document : Document) (place : CellRef) (typed : String) :
    Sheet.Recalculated (document.sheet.insert place (Cell.ofInput typed))
      (document.enter place typed).2.sheet := by
  cases hformula : (Cell.ofInput typed).formula? with
  | some formula =>
    rw [enter_of_formula hformula]
    exact Grid.recalculated_calculate { document.toGrid with
      sheet := document.sheet.insert place (Cell.ofInput typed) } place
  | none =>
    rw [enter_of_plain hformula]
    exact Grid.recalculated_cascade { document.toGrid with
      sheet := document.sheet.insert place (Cell.ofInput typed)
      graph := document.graph.clearReads place.address } place

/-- **An edit changes the input of its cell only,** whatever its answer is. -/
theorem inputAt_enter (document : Document) (place : CellRef) (typed : String) :
    (document.enter place typed).2.sheet.inputAt =
      Function.update document.sheet.inputAt place (Text.trim typed) := by
  rw [← Cell.inputText_ofInput, ← Sheet.inputAt_insert]
  exact funext (recalculated_enter document place typed).inputAt

end Document
end Gridcalc
