import Gridcalc.Proofs.Document.Edit

/-! # Previews

The value of a formula can be asked for without entering it anywhere (`Document.preview`).  When the
formula is entered, the cell already holds it by the time it is evaluated, and what depends on the
cell is calculated afterwards.  Neither makes a difference: a formula that is accepted does not
read its own cell, so it is evaluated against what the preview saw (`Grid.calculateCell_insert`),
and the cell itself is not on the agenda of its change.

So an accepted formula comes out as in the preview, and shows that at the end of the edit
(`Document.preview_agrees`).
-/
namespace Gridcalc

namespace Grid
variable {grid : Grid} {place : CellRef} {cell : Cell} {formula : String}

/-- The edited cell shows its formula before the change is carried on. -/
theorem displayAt_entered (hcell : cell.formula? = some formula)
    (hread : place.address ∉ referencesOf formula) :
    (grid.entered place cell).sheet.displayAt place = grid.textFor formula := by
  rw [entered, hcell, ← textFor_stored hread]
  exact Sheet.displayAt_writeValue_self

end Grid

namespace Document

/-- **A preview agrees with the edit,** after any edits, rejected ones included.  A formula that is
entered is rejected, or it is computed with a text exactly when the preview has a value that is
displayed as this text, and has no value exactly when the preview fails with the same error.  When
the change has been carried on, the cell shows this text, or an error. -/
theorem preview_agrees (limits : Limits) (edits : List Edit) {before after : Document}
    {address formula : String} {place : CellRef} {answer : Except DocumentError CellOutcome}
    (hbefore : before = (fresh limits).edited edits)
    (hparse : CellRef.parse address = .ok place)
    (htrim : Text.trim formula = formula) (hformula : Cell.isFormulaText formula = true)
    (henter : before.enterAt address formula = (answer, after)) :
    ∃ outcome, answer = .ok outcome ∧
      ((∃ error, outcome = .rejected error) ∨
        (∀ text, outcome = .computed text ↔
          ∃ value, before.preview formula = .ok value ∧ value.display = text) ∧
        (∀ error, outcome = .faulted error ↔ before.preview formula = .error error) ∧
        (∀ text, outcome = .computed text → after.display address = .ok text) ∧
        ∀ error, outcome = .faulted error → after.display address = .ok errorText) := by
  obtain ⟨hsound, -⟩ := sound_edited (sound_fresh limits) edits
  rw [← hbefore] at hsound
  rw [enterAt_of_parse hparse] at henter
  have hcell : (Cell.ofInput formula).formula? = some formula := by
    rw [Cell.ofInput_of_isFormulaText htrim hformula]
    exact Cell.formula?_formula hformula
  by_cases ha : (before.graph.rewire place.address (Cell.ofInput formula).references).Acyclic
  · have hstart := hsound.entered (CellRef.named_of_parse hparse) ha
    obtain ⟨last, hcascade, hpass⟩ := Grid.exists_cascade hstart place
    rw [enter_of_acyclic ha, hcascade, Grid.outcomeFor_of_formula? hcell] at henter
    obtain ⟨rfl, rfl⟩ := Prod.mk.inj henter
    rw [Cell.references_of_formula? hcell] at ha
    -- The cell is not on its own agenda, so it keeps the text of its calculation.
    have hkept := hpass.untouched place
      (DependencyGraph.not_mem_agenda_self hstart.coherent hstart.acyclic)
    have hshown : (CellRef.parse address).map last.sheet.displayAt =
        .ok (before.textFor formula) := by
      rw [hparse, Except.map, Sheet.displayAt, hkept,
        ← Grid.displayAt_entered hcell (Grid.not_mem_referencesOf_of_acyclic ha)]
      rfl
    refine ⟨_, rfl, Or.inr ⟨fun _ => CellOutcome.ofEvaluation_eq_computed,
      fun _ => CellOutcome.ofEvaluation_eq_faulted, fun text htext => ?_, fun error herror => ?_⟩⟩
    · obtain ⟨value, hvalue, rfl⟩ := CellOutcome.ofEvaluation_eq_computed.mp htext
      exact hshown.trans (congrArg Except.ok (Grid.textFor_of_ok hvalue))
    · have hvalue := CellOutcome.ofEvaluation_eq_faulted.mp herror
      exact hshown.trans (congrArg Except.ok (Grid.textFor_of_error hvalue))
  · obtain ⟨error, hrejected⟩ := enter_rejected hsound.coherent ha hsound.acyclic
    obtain ⟨rfl, -⟩ := Prod.mk.inj (henter.symm.trans hrejected)
    exact ⟨_, rfl, Or.inl ⟨error, rfl⟩⟩

/-- The last of these edits is rejected.  `B1` shows an error, and its arrow to `A1` is left. -/
def refusedEdits : List Edit := [⟨"A1", "1"⟩, ⟨"B1", "=A1"⟩, ⟨"C1", "=B1"⟩, ⟨"B1", "=C1+A1"⟩]

set_option maxRecDepth 100000 in
/-- A formula for `A1`, which `B1` still depends on. -/
theorem refusedEdits_preview :
    (∃ value, ((fresh {}).edited refusedEdits).preview "=D1+3" = .ok value ∧
        value.display = "3") ∧
      (((fresh {}).edited refusedEdits).enterAt "A1" "=D1+3").2.display "A1" = .ok "3" := by
  have henter : ((fresh {}).edited refusedEdits).enterAt "A1" "=D1+3" =
      (.ok (.computed "3"), (((fresh {}).edited refusedEdits).enterAt "A1" "=D1+3").2) :=
    Prod.ext (by decide +kernel) rfl
  obtain ⟨outcome, houtcome, h⟩ := preview_agrees {} refusedEdits rfl
    (show CellRef.parse "A1" = .ok ⟨0, 0⟩ by decide +kernel) (by decide +kernel)
    (by decide +kernel) henter
  obtain rfl := Except.ok.inj houtcome
  obtain ⟨error, hrejected⟩ | ⟨hcomputed, -, hshown, -⟩ := h
  · cases hrejected
  · exact ⟨(hcomputed "3").mp rfl, hshown "3" rfl⟩

end Document
end Gridcalc
