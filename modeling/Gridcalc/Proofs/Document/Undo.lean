import Gridcalc.Proofs.Document.UpToDate
import Gridcalc.Proofs.Sheet.NormalForm

/-! # Undoing a rejected edit

A rejected edit leaves the formula in its cell, with an error, and touches neither the graph nor
any other cell (`Document.rejection_contained`).  Entering again what the cell held before puts the
cell back, and its references are the arrows that are there already.  That edit then is a cascade
on a grid in which only the cell may differ from the one before the rejection, and it does differ
only in that a cell that was never stored is now stored as blank (`Grid.entered_held`).

The cascade changes nothing if every formula was up to date, and then the rejected edit is undone.
Otherwise it may well bring something up to date, or take in references that were refused
before.
-/
namespace Gridcalc

/-! ### What was entered -/

namespace Sheet
variable {sheet : Sheet} {place : CellRef} {cell old : Cell} {text : String}

/-- The formula of a cell can be read off its text to edit. -/
theorem formulaAt?_eq_filter_inputAt (sheet : Sheet) (place : CellRef) :
    sheet.formulaAt? place = (some (sheet.inputAt place)).filter Cell.isFormulaText := by
  rw [formulaAt?, inputAt_eq_getD]
  cases sheet[place]? with
  | none => rfl
  | some cell =>
    show cell.input.filter Cell.isFormulaText = (some (cell.input.getD "")).filter _
    cases cell.input <;> rfl

theorem insert_insert_self : (sheet.insert place old).insert place cell =
    sheet.insert place cell := by
  refine Std.ExtTreeMap.ext_getElem? fun other => ?_
  by_cases he : other = place
  · rw [he, Std.ExtTreeMap.getElem?_insert_self, Std.ExtTreeMap.getElem?_insert_self]
  · rw [getElem?_insert_of_ne he, getElem?_insert_of_ne he, getElem?_insert_of_ne he]

theorem writeValue_insert_self : writeValue (sheet.insert place cell) place text =
    sheet.insert place (cell.showing text) := by
  show (sheet.insert place cell).insert place _ = _
  rw [insert_insert_self, Std.ExtTreeMap.getD_insert_self]
  rfl

theorem getD_insert_getD {other : CellRef} :
    (sheet.insert place (sheet.getD place .blank)).getD other .blank = sheet.getD other .blank := by
  by_cases he : other = place
  · rw [he, Std.ExtTreeMap.getD_insert_self]
  · rw [Std.ExtTreeMap.getD_eq_getD_getElem?, getElem?_insert_of_ne he,
      ← Std.ExtTreeMap.getD_eq_getD_getElem?]

theorem getElem?_insert_getD {other : CellRef} (h : sheet[other]? = some cell) :
    (sheet.insert place (sheet.getD place .blank))[other]? = some cell := by
  by_cases he : other = place
  · subst he
    rw [Std.ExtTreeMap.getElem?_insert_self, Std.ExtTreeMap.getD_eq_getD_getElem?, h]
    rfl
  · rw [getElem?_insert_of_ne he, h]

/-- A blank cell reads like one that is not stored. -/
theorem lookup_insert_getD (address : String) :
    lookup (sheet.insert place (sheet.getD place .blank)) address = sheet.lookup address := by
  cases hparse : CellRef.parse address with
  | error error => simp only [lookup, hparse]
  | ok found =>
    by_cases he : found = place
    · simp only [lookup, hparse, he, Std.ExtTreeMap.getElem?_insert_self,
        Std.ExtTreeMap.getD_eq_getD_getElem?]
      cases sheet[place]? <;> rfl
    · exact lookup_congr hparse (getElem?_insert_of_ne he)

/-- No input has blanks around it. -/
def Trimmed (sheet : Sheet) : Prop := ∀ place, Text.trim (sheet.inputAt place) = sheet.inputAt place

end Sheet

namespace Grid
variable {grid : Grid} {place : CellRef} {cell old : Cell} {formula : String}

/-- **The same is shown and held in every cell, and the arrows are the same.** -/
structure Restored (grid after : Grid) : Prop where
  graph : after.graph = grid.graph
  displayAt : ∀ cell, after.sheet.displayAt cell = grid.sheet.displayAt cell
  inputAt : ∀ cell, after.sheet.inputAt cell = grid.sheet.inputAt cell

/-- The grid with a cell stored, as blank if it was not stored before. -/
def occupy (grid : Grid) (place : CellRef) : Grid :=
  { grid with sheet := grid.sheet.insert place (grid.sheet.getD place .blank) }

theorem restored_occupy (grid : Grid) (place : CellRef) : grid.Restored (grid.occupy place) where
  graph := rfl
  displayAt := by
    intro cell
    rw [occupy, Sheet.displayAt_eq_display_getD, Sheet.getD_insert_getD,
      ← Sheet.displayAt_eq_display_getD]
  inputAt := fun cell => congrArg Cell.inputText Sheet.getD_insert_getD

/-! ### Entering what a cell holds -/

theorem entered_of_plain (h : cell.formula? = none) :
    grid.entered place cell = grid.stored place cell := by
  rw [entered, h]

theorem entered_of_formula (h : cell.formula? = some formula)
    (hread : place.address ∉ referencesOf formula) :
    grid.entered place cell = { grid.stored place cell with
      sheet := grid.sheet.insert place (cell.showing (grid.textFor formula)) } := by
  rw [entered, h]
  simp only
  rw [textFor_stored hread, present, stored, Sheet.writeValue_insert_self]

/-- What a cell held before makes no difference to an edit. -/
theorem entered_insert : entered { grid with sheet := grid.sheet.insert place old } place cell =
    grid.entered place cell := by
  have hstored : stored { grid with sheet := grid.sheet.insert place old } place cell =
      grid.stored place cell := by
    rw [stored, stored, Sheet.insert_insert_self]
  rw [entered, entered, hstored]

/-- A cell without a formula is the one of its text. -/
theorem Intact.getD_of_plain (h : grid.Intact) (hnone : grid.sheet.formulaAt? place = none) :
    grid.sheet.getD place .blank = .ofInput (grid.sheet.inputAt place) := by
  rw [Sheet.inputAt, Std.ExtTreeMap.getD_eq_getD_getElem?]
  cases hcell : grid.sheet[place]? with
  | none => rfl
  | some cell =>
    rw [Sheet.formulaAt?, hcell] at hnone
    exact (h.plain hcell hnone).ofInput_inputText.symm

/-- A formula that is up to date is the one of its text, with its value. -/
theorem Current.getD_of_formula (h : grid.Current [])
    (hformula : grid.sheet.formulaAt? place = some formula) :
    grid.sheet.getD place .blank = (Cell.formula formula).showing (grid.textFor formula) := by
  obtain ⟨cell, hcell, hf⟩ := Sheet.formulaAt?_eq_some.mp hformula
  have hinput : cell.input = some formula := (Option.filter_eq_some_iff.mp hf).1
  rw [Std.ExtTreeMap.getD_eq_getD_getElem?, hcell, Option.getD_some,
    eq_showing_of_writeValue_eq (h.settled place formula hformula List.not_mem_nil) hcell]
  simp only [Cell.showing, Cell.markFresh, Cell.formula, hinput]

section Held
variable (h : grid.Current []) (htrim : grid.sheet.Trimmed)
include htrim

theorem formula?_held (place : CellRef) :
    (Cell.ofInput (grid.sheet.inputAt place)).formula? = grid.sheet.formulaAt? place := by
  rw [Cell.formula?_ofInput, htrim place, Sheet.formulaAt?_eq_filter_inputAt]

include h

/-- What a cell holds reads what the cell reads already. -/
theorem rewire_held : grid.graph.rewire place.address
    (Cell.ofInput (grid.sheet.inputAt place)).references = grid.graph := by
  refine h.coherent.rewire_self ?_
  cases hformula : grid.sheet.formulaAt? place with
  | none =>
    rw [Cell.references, formula?_held htrim place, hformula]
    exact targets_eq_empty h.source hformula
  | some formula =>
    rw [Cell.references_of_formula? ((formula?_held htrim place).trans hformula)]
    exact h.linked place formula hformula

/-- **Entering what a cell holds changes nothing,** except that the cell is stored afterwards. -/
theorem entered_held : grid.entered place (Cell.ofInput (grid.sheet.inputAt place)) =
    grid.occupy place := by
  have hheld := formula?_held htrim place
  cases hformula : grid.sheet.formulaAt? place with
  | none =>
    rw [entered_of_plain (hheld.trans hformula), stored, rewire_held h htrim, occupy,
      h.getD_of_plain hformula]
  | some formula =>
    obtain ⟨-, -, hcell⟩ := Cell.eq_formula_of_formula? (hheld.trans hformula)
    rw [entered_of_formula (hheld.trans hformula) (h.not_mem_referencesOf hformula), stored,
      rewire_held h htrim, occupy, h.getD_of_formula hformula, hcell]

/-- With the cell stored every formula is as up to date as before. -/
theorem current_occupy (place : CellRef) : (grid.occupy place).Current [] := by
  have ha : (grid.graph.rewire place.address
      (Cell.ofInput (grid.sheet.inputAt place)).references).Acyclic := by
    rw [rewire_held h htrim]
    exact h.acyclic
  have hentered := h.entered ha Cell.plain_ofInput
  rw [entered_held h htrim] at hentered
  refine ⟨hentered.toIntact, hentered.linked, fun other formula hf _ => ?_⟩
  -- The formulas are the same, and nothing they read shows anything else.
  have hold : grid.sheet.formulaAt? other = some formula := by
    rw [Sheet.formulaAt?_eq_filter_inputAt, (restored_occupy grid place).inputAt] at hf
    rw [Sheet.formulaAt?_eq_filter_inputAt, hf]
  obtain ⟨cell, hcell, -⟩ := Sheet.formulaAt?_eq_some.mp hold
  exact (h.settled other formula hold List.not_mem_nil).congr rfl
    ((Sheet.getElem?_insert_getD hcell).trans hcell.symm) fun a _ _ => Sheet.lookup_insert_getD a

end Held
end Grid

/-! ### Inputs are trimmed -/

namespace Document
variable {document after : Document} {place : CellRef} {typed : String}

theorem trimmed_of_holding {files : Files} {path : String} {sheet : Sheet}
    (h : Holding files path sheet) : sheet.Trimmed := by
  obtain ⟨_, _, -, -, -, htext⟩ := h
  exact (Sheet.asRead_of_ofText htext).writable.trimmed

/-- **No call leaves blanks around an input.** -/
theorem trimmed_operate (h : document.Intact) (htrim : document.sheet.Trimmed)
    (operation : Operation) : (document.operate operation).sheet.Trimmed := by
  intro place
  cases operation with
  | enter target typed =>
    rw [operate, inputAt_enter]
    by_cases he : place = target
    · rw [he, Function.update_self, Text.trim_trim]
    · rw [Function.update_of_ne he]
      exact htrim place
  | load files path =>
    rw [operate]
    obtain ⟨error, herror⟩ | ⟨sheet, hsheet⟩ := unreadable_or_holding files path
    · rw [load_of_unreadable herror]
      exact htrim place
    · rw [load_of_holding hsheet]
      show Text.trim ((document.loaded path sheet).sheet.inputAt place) = _
      rw [calculated_loaded.recalculated.inputAt place]
      exact trimmed_of_holding hsheet place
  | calculateAll =>
    obtain ⟨after, hafter, hcalculated⟩ := Grid.exists_calculated h.coherent h.acyclic
    rw [operate, calculateAll, onGrid, hafter]
    show Text.trim (after.sheet.inputAt place) = after.sheet.inputAt place
    rw [hcalculated.recalculated.inputAt place]
    exact htrim place

theorem trimmed_operated (h : document.Intact) (htrim : document.sheet.Trimmed)
    (operations : List Operation) : (document.operated operations).sheet.Trimmed := by
  induction operations generalizing document with
  | nil => exact htrim
  | cons operation rest ih =>
    exact ih (intact_operate h operation) (trimmed_operate h htrim operation)

theorem trimmed_fresh (limits : Limits) : (fresh limits).sheet.Trimmed := by
  intro place
  have hempty : (fresh limits).sheet.inputAt place = "" :=
    congrFun Sheet.inputAt_empty place
  rw [hempty]
  rfl

/-! ### Rejected edits -/

/-- The document after a text was rejected that was entered into a cell. -/
def refused (document : Document) (place : CellRef) (typed : String) : Document :=
  { document with
    sheet := document.sheet.insert place ((Cell.ofInput typed).showing errorText)
    modified := true }

/-- **A rejected edit stores its cell with an error** and nothing else. -/
theorem eq_refused (h : document.Intact) {error : CycleError}
    (henter : document.enter place typed = (.ok (.rejected error), after)) :
    after = document.refused place typed := by
  have ha := not_acyclic_of_rejected (congrArg Prod.fst henter)
  obtain ⟨found, hrejected⟩ := enter_rejected h.coherent ha h.acyclic
  obtain ⟨-, rfl⟩ := Prod.mk.inj (henter.symm.trans hrejected)
  rw [refused, Sheet.writeValue_insert_self]

/-- **Entering again what the cell held before a rejected edit** gives back the document before it,
if every formula was up to date. -/
theorem toGrid_enter_refused (h : document.Current []) (htrim : document.sheet.Trimmed) :
    ((document.refused place typed).enter place (document.sheet.inputAt place)).2.toGrid =
      document.occupy place := by
  have ha : ((document.refused place typed).graph.rewire place.address
      (Cell.ofInput (document.sheet.inputAt place)).references).Acyclic := by
    show (document.graph.rewire _ _).Acyclic
    rw [Grid.rewire_held h htrim]
    exact h.acyclic
  have hentered : (document.refused place typed).entered place
      (Cell.ofInput (document.sheet.inputAt place)) = document.occupy place :=
    Grid.entered_insert.trans (Grid.entered_held h htrim)
  rw [enter_of_acyclic ha, hentered]
  exact (Grid.current_occupy h htrim place).snd_cascade place

/-- **A rejected edit is contained and can be undone,** after any calls.  The graph is what it was,
the cell holds the formula and shows an error, and every other cell is as it was.  If every formula
was up to date before, then entering again what the cell held, nothing if it held nothing, restores
what each cell shows and holds, and all arrows. -/
theorem rejection_contained (limits : Limits) (operations : List Operation) (place : CellRef)
    (typed : String) {before after : Document} {error : CycleError}
    (hbefore : before = (fresh limits).operated operations)
    (henter : before.enter place typed = (.ok (.rejected error), after)) :
    after.graph = before.graph ∧
    Cell.isFormulaText (Text.trim typed) = true ∧
    after.sheet[place]? =
      some ⟨some (Text.trim typed), some errorText, some (Text.trim typed)⟩ ∧
    (∀ other : CellRef, other ≠ place → after.sheet[other]? = before.sheet[other]?) ∧
    ((fresh limits).endsCurrent true operations = true →
      before.toGrid.Restored (after.enter place (before.sheet.inputAt place)).2.toGrid) := by
  have hintact := intact_operated (intact_fresh limits) operations
  rw [← hbefore] at hintact
  obtain ⟨formula, hformula⟩ := Cell.exists_formula?_of_not_acyclic hintact.acyclic
    (not_acyclic_of_rejected (congrArg Prod.fst henter))
  obtain ⟨rfl, htext, hcell⟩ := Cell.eq_formula_of_formula? hformula
  obtain rfl := eq_refused hintact henter
  refine ⟨rfl, htext, ?_, fun other hne => Sheet.getElem?_insert_of_ne hne, fun hends => ?_⟩
  · rw [refused, hcell]
    exact Std.ExtTreeMap.getElem?_insert_self
  · have hcurrent : before.Current [] := hbefore ▸ current_operated (intact_fresh limits)
      (fun _ => current_fresh limits) operations hends
    have htrim : before.sheet.Trimmed :=
      hbefore ▸ trimmed_operated (intact_fresh limits) (trimmed_fresh limits) operations
    rw [toGrid_enter_refused hcurrent htrim]
    exact before.restored_occupy place

/-- A formula that reads itself is entered, then a sheet is loaded in its place, and another formula
is entered in the last column. -/
def reloadedRun : List Operation :=
  [.enter ⟨0, 0⟩ "=A1",
    .load (Files.put ∅ "sheet.txt" "A1: 2\nB1: =A1*3\nC1: =B1+A1\n".toUTF8) "sheet.txt",
    .enter lastColumn "=A1"]

set_option maxRecDepth 100000 in
/-- Entering `2` again into `A1` undoes the rejected formula, although its cascade comes to the last
column and stops there. -/
theorem reloadedRun_undone :
    (((fresh {}).operated reloadedRun).enter ⟨0, 0⟩ " =C1 ").2.sheet[(⟨0, 0⟩ : CellRef)]? =
        some ⟨some "=C1", some "#ERROR", some "=C1"⟩ ∧
      ((((fresh {}).operated reloadedRun).enter ⟨0, 0⟩ " =C1 ").2.enter ⟨0, 0⟩ "2").1 =
        .error (.address ⟨.columnOverflow, lastColumn.address⟩) ∧
      ((fresh {}).operated reloadedRun).toGrid.Restored
        ((((fresh {}).operated reloadedRun).enter ⟨0, 0⟩ " =C1 ").2.enter ⟨0, 0⟩ "2").2.toGrid := by
  have henter : ((fresh {}).operated reloadedRun).enter ⟨0, 0⟩ " =C1 " =
      (.ok (.rejected (.cycle ["A1", "C1", "A1"])),
        (((fresh {}).operated reloadedRun).enter ⟨0, 0⟩ " =C1 ").2) :=
    Prod.ext (by decide +kernel) rfl
  obtain ⟨-, -, hcell, -, hundo⟩ := rejection_contained {} reloadedRun ⟨0, 0⟩ " =C1 " rfl henter
  have hheld : ((fresh {}).operated reloadedRun).sheet.inputAt ⟨0, 0⟩ = "2" := by decide +kernel
  have htrim : Text.trim " =C1 " = "=C1" := by decide +kernel
  have hrestored := hundo (by decide +kernel)
  rw [hheld] at hrestored
  rw [htrim] at hcell
  exact ⟨hcell, by decide +kernel, hrestored⟩

/-! ### What cannot be undone -/

/-- Whether a call is an edit that is rejected. -/
def rejectsEdit (document : Document) : Operation → Bool
  | .enter place typed =>
    match (document.enter place typed).1 with
    | .ok (.rejected _) => true
    | _ => false
  | .load _ _ | .calculateAll => false

/-- Whether none of some calls is an edit that is rejected. -/
def rejectsNoEdit (document : Document) : List Operation → Bool
  | [] => true
  | operation :: rest =>
    !document.rejectsEdit operation && (document.operate operation).rejectsNoEdit rest

/-- A sheet is loaded in which `A1` and `B1` read each other, so that `B1` shows an error, and then
the formula of `A1` is replaced. -/
def knottedRun : List Operation :=
  [.load (Files.put ∅ "sheet.txt" "A1: =B1\nB1: =A1\n".toUTF8) "sheet.txt", .enter ⟨0, 0⟩ "1"]

/-- The last edit stops at the last column, and `C1` is not calculated. -/
def interruptedRun : List Operation :=
  [.enter ⟨0, 0⟩ "1", .enter ⟨0, 1⟩ "=A1", .enter ⟨0, 2⟩ "=B1", .enter lastColumn "=A1",
    .enter ⟨0, 0⟩ "2"]

set_option maxRecDepth 100000 in
/-- **That no edit was rejected before is not enough for a rejected edit to be undone.**  Entering
again what `B1` held has the formula taken in that the load had to reject, or brings `C1` up to date
where the cascade before had stopped. -/
theorem rejection_not_undone :
    ((fresh {}).rejectsNoEdit knottedRun = true ∧
      (∃ error, (((fresh {}).operated knottedRun).enter ⟨0, 1⟩ "=B1").1 =
        .ok (.rejected error)) ∧
      ¬ ((fresh {}).operated knottedRun).toGrid.Restored
        ((((fresh {}).operated knottedRun).enter ⟨0, 1⟩ "=B1").2.enter ⟨0, 1⟩
          (((fresh {}).operated knottedRun).sheet.inputAt ⟨0, 1⟩)).2.toGrid) ∧
    ((fresh {}).rejectsNoEdit interruptedRun = true ∧
      (∃ error, (((fresh {}).operated interruptedRun).enter ⟨0, 1⟩ "=C1").1 =
        .ok (.rejected error)) ∧
      ¬ ((fresh {}).operated interruptedRun).toGrid.Restored
        ((((fresh {}).operated interruptedRun).enter ⟨0, 1⟩ "=C1").2.enter ⟨0, 1⟩
          (((fresh {}).operated interruptedRun).sheet.inputAt ⟨0, 1⟩)).2.toGrid) := by
  refine ⟨⟨by decide +kernel, ⟨.selfReference "B1", by decide +kernel⟩, fun h => ?_⟩,
    by decide +kernel, ⟨.cycle ["B1", "C1", "B1"], by decide +kernel⟩, fun h => ?_⟩
  · exact absurd (h.displayAt ⟨0, 1⟩) (by decide +kernel)
  · exact absurd (h.displayAt ⟨0, 2⟩) (by decide +kernel)

end Document
end Gridcalc
