import Gridcalc.Proofs.Document.Loading
import Gridcalc.Proofs.Sheet.Text

/-! # Runs of calls

A document is changed by three calls: a text is entered into a cell, a sheet file is loaded,
or the whole sheet is calculated.  A call may fail and may report rejected formulas.  A run
is *clean* when no call of it reports one (`Document.runsClean`).

A clean run leaves the document consistent, whatever the calls are (`consistent_run`): an
accepted edit by the cascade, a load because calculation starts from an empty graph, and a
calculation because there is nothing left to do.  After a clean run of edits the document
also holds what was last typed into each cell (`holds_run`), and a consistent document is
determined by that.  So what it shows does not depend on the way there.
-/
namespace Gridcalc

/-! ### Calls -/

/-- How many formulas an outcome rejected. -/
def CellOutcome.rejections : CellOutcome → Nat
  | .rejected _ => 1
  | _ => 0

namespace Document

/-- A call that changes a document. -/
inductive Call where
  | enter (edit : Edit)
  | load (files : Files) (path : String)
  | calculateAll

/-- Performs a call, and tells how many formulas were rejected if it did not fail. -/
def perform (document : Document) : Call → Except DocumentError Nat × Document
  | .enter edit => (document.enterAt edit.address edit.typed).map (·.map CellOutcome.rejections) id
  | .load files path => (document.load files path).map (·.map Summary.rejected) id
  | .calculateAll => document.calculateAll.map (·.map Summary.rejected) id

/-- The document after some calls. -/
def run (document : Document) (calls : List Call) : Document :=
  calls.foldl (fun document call => (document.perform call).2) document

/-- The call reports no rejected formula. -/
abbrev Clean (document : Document) (call : Call) : Prop :=
  (document.perform call).1.toOption.getD 0 = 0

/-- Whether all calls of a run are clean. -/
def runsClean (document : Document) : List Call → Bool
  | [] => true
  | call :: rest => decide (document.Clean call) && (document.perform call).2.runsClean rest

variable {document : Document} {address typed : String} {place : CellRef}

theorem runsClean_cons {call : Call} {rest : List Call} :
    document.runsClean (call :: rest) = true ↔
      document.Clean call ∧ (document.perform call).2.runsClean rest = true := by
  rw [runsClean, Bool.and_eq_true, decide_eq_true_eq]

/-! ### One call -/

/-- What a clean edit of a cell does: it is accepted, and its change carried on. -/
theorem exists_pass_of_clean (h : document.Consistent) (hparse : CellRef.parse address = .ok place)
    (hclean : document.Clean (.enter ⟨address, typed⟩)) :
    (document.graph.rewire place.address (Cell.ofInput typed).references).Acyclic ∧
      (document.entered place (Cell.ofInput typed)).Pass
        ((document.entered place (Cell.ofInput typed)).graph.agenda place.address)
        (document.perform (.enter ⟨address, typed⟩)).2.toGrid := by
  obtain ⟨ha, outcome, after, henter, -, hpass⟩ | ⟨error, henter⟩ :=
    enter_cases h.sound (CellRef.named_of_parse hparse) typed
  · refine ⟨ha, ?_⟩
    rw [perform, enterAt_of_parse hparse, henter]
    exact hpass
  · rw [Clean, perform, enterAt_of_parse hparse, henter] at hclean
    cases hclean

theorem perform_enter_of_parse_error {error : AddressError}
    (h : CellRef.parse address = .error error) :
    (document.perform (.enter ⟨address, typed⟩)).2 = document := by
  simp only [perform, enterAt, h]
  rfl

theorem consistent_enter (h : document.Consistent)
    (hclean : document.Clean (.enter ⟨address, typed⟩)) :
    (document.perform (.enter ⟨address, typed⟩)).2.Consistent := by
  cases hparse : CellRef.parse address with
  | error error =>
    rw [perform_enter_of_parse_error hparse]
    exact h
  | ok place =>
    obtain ⟨ha, hpass⟩ := exists_pass_of_clean h hparse hclean
    exact (h.entered (CellRef.named_of_parse hparse) ha).consistent_pass hpass
      fun _ _ => Grid.settled_entered h.settled

/-- Calculating a consistent document changes nothing. -/
theorem calculateAll_of_consistent (h : document.Consistent) :
    document.calculateAll = (.ok document.tally, document) := by
  rw [calculateAll, onGrid, h.stable.calculateAll]
  rfl

theorem allNamed_of_holding {files : Files} {path : String} {sheet : Sheet}
    (h : Holding files path sheet) : sheet.AllNamed := by
  obtain ⟨_, _, -, -, -, htext⟩ := h
  exact Sheet.allNamed_of_ofText htext

theorem consistent_load (h : document.Consistent) (files : Files) (path : String)
    (hclean : document.Clean (.load files path)) :
    (document.perform (.load files path)).2.Consistent := by
  obtain ⟨error, herror⟩ | ⟨sheet, hsheet⟩ := unreadable_or_holding files path
  · rw [perform, load_of_unreadable herror]
    exact h
  · rw [Clean, perform, load_of_holding hsheet] at hclean
    rw [perform, load_of_holding hsheet]
    exact calculated_loaded.consistent rfl (fun _ _ => (allNamed_of_holding hsheet).formula)
      hclean

/-- **A clean call keeps a document consistent.** -/
theorem consistent_perform (h : document.Consistent) (call : Call)
    (hclean : document.Clean call) :
    (document.perform call).2.Consistent := by
  cases call with
  | enter edit => exact consistent_enter h hclean
  | load files path => exact consistent_load h files path hclean
  | calculateAll =>
    rw [perform, calculateAll_of_consistent h]
    exact h

/-! ### All calls -/

theorem consistent_fresh (limits : Limits) : (fresh limits).Consistent :=
  Grid.consistent_of_empty rfl rfl

theorem consistent_run (h : document.Consistent) : ∀ calls : List Call,
    document.runsClean calls = true → (document.run calls).Consistent := by
  intro calls
  induction calls generalizing document with
  | nil => exact fun _ => h
  | cons call rest ih =>
    intro hclean
    obtain ⟨hcall, hrest⟩ := runsClean_cons.mp hclean
    exact ih (consistent_perform h call hcall) hrest

/-- **After every clean run each formula is right.**  It shows its value against the sheet as
it then stands, or an error if it has none, and its arrows are its references. -/
theorem formula_right_after_run (limits : Limits) (calls : List Call)
    (hclean : (fresh limits).runsClean calls = true) (place : CellRef) (formula : String)
    (hformula : ((fresh limits).run calls).sheet.formulaAt? place = some formula) :
    ((fresh limits).run calls).sheet.displayAt place =
        ((fresh limits).run calls).textFor formula ∧
      ((fresh limits).run calls).graph.reads.targets place.address =
        Grid.referencesOf formula := by
  have h := consistent_run (consistent_fresh limits) calls hclean
  exact ⟨(h.settled place formula hformula).displayAt_eq, h.linked place formula hformula⟩

/-- A sheet is loaded, one of its cells edited, a formula added, and all of it calculated. -/
def loadedRun : List Call :=
  [.load (Files.put ∅ "sheet.txt" "A1: 4\nA2: =A1*3\n".toUTF8) "sheet.txt", .enter ⟨"A1", "5"⟩,
    .enter ⟨"A3", "=A2/A4"⟩, .calculateAll]

set_option maxRecDepth 100000 in
theorem loadedRun_right :
    ((fresh {}).run loadedRun).sheet.displayAt ⟨1, 0⟩ =
        ((fresh {}).run loadedRun).textFor "=A1*3" ∧
      ((fresh {}).run loadedRun).graph.reads.targets (CellRef.address ⟨1, 0⟩) =
        Grid.referencesOf "=A1*3" :=
  formula_right_after_run {} loadedRun (by decide +kernel) ⟨1, 0⟩ "=A1*3" (by decide +kernel)

/-! ### What was typed last -/

/-- What was typed last into each cell, once one more text was entered. -/
def typing (typed : CellRef → String) (edit : Edit) : CellRef → String :=
  match CellRef.parse edit.address with
  | .ok place => Function.update typed place edit.typed
  | .error _ => typed

/-- What was typed last into each cell, nothing for a cell that was never edited. -/
def lastTyped (edits : List Edit) : CellRef → String := edits.foldl typing fun _ => ""

/-- **A document holds what was typed**: the formulas, and all of the cells without one.  A
cell that was emptied and one that was never stored count as the same. -/
structure Holds (document : Document) (typed : CellRef → String) : Prop where
  formula : ∀ place,
    document.sheet.formulaAt? place = (Cell.ofInput (typed place)).formula?
  plain : ∀ place, document.sheet.formulaAt? place = none →
    document.sheet.getD place .blank = Cell.ofInput (typed place)

theorem ofInput_blank : Cell.ofInput "" = .blank := by decide

theorem holds_fresh (limits : Limits) : (fresh limits).Holds fun _ => "" where
  formula := by
    intro place
    rw [ofInput_blank]
    rfl
  plain := by
    intro place _
    rw [ofInput_blank]
    exact Std.ExtTreeMap.getD_empty

theorem getD_entered {grid : Grid} {cell : Cell} (h : cell.formula? = none) :
    (grid.entered place cell).sheet.getD place .blank = cell := by
  rw [Grid.entered, h]
  exact Std.ExtTreeMap.getD_insert_self

/-- A clean edit puts what was typed in the place of what was there. -/
theorem holds_enter {typed : CellRef → String} (h : document.Consistent)
    (hholds : document.Holds typed) (edit : Edit) (hclean : document.Clean (.enter edit)) :
    (document.perform (.enter edit)).2.Holds (typing typed edit) := by
  obtain ⟨address, text⟩ := edit
  cases hparse : CellRef.parse address with
  | error error =>
    rw [perform_enter_of_parse_error hparse, typing, hparse]
    exact hholds
  | ok place =>
    obtain ⟨-, hpass⟩ := exists_pass_of_clean h hparse hclean
    have htyping : typing typed ⟨address, text⟩ = Function.update typed place text := by
      rw [typing, hparse]
    rw [htyping]
    have hformula : ∀ other, (document.entered place (Cell.ofInput text)).sheet.formulaAt? other =
        (Cell.ofInput (Function.update typed place text other)).formula? := by
      intro other
      rw [Grid.formulaAt?_entered]
      by_cases he : other = place
      · rw [if_pos he, he, Function.update_self]
      · rw [if_neg he, Function.update_of_ne he, hholds.formula]
    refine ⟨fun other => (hpass.recalculated.formulaAt? other).trans (hformula other),
      fun other hplain => ?_⟩
    rw [hpass.recalculated.formulaAt?] at hplain
    -- The cascade does not touch a cell without a formula.
    rw [Std.ExtTreeMap.getD_eq_getD_getElem?, hpass.recalculated.plain other hplain,
      ← Std.ExtTreeMap.getD_eq_getD_getElem?]
    by_cases he : other = place
    · subst he
      rw [hformula, Function.update_self] at hplain
      rw [Function.update_self, getD_entered hplain]
    · rw [Grid.formulaAt?_entered, if_neg he] at hplain
      rw [Std.ExtTreeMap.getD_eq_getD_getElem?, Grid.getElem?_entered_of_ne he,
        ← Std.ExtTreeMap.getD_eq_getD_getElem?, Function.update_of_ne he]
      exact hholds.plain other hplain

theorem holds_run {typed : CellRef → String} (h : document.Consistent)
    (hholds : document.Holds typed) :
    ∀ edits : List Edit, document.runsClean (edits.map .enter) = true →
      (document.run (edits.map .enter)).Holds (edits.foldl typing typed) := by
  intro edits
  induction edits generalizing document typed with
  | nil => exact fun _ => hholds
  | cons edit rest ih =>
    intro hclean
    obtain ⟨hcall, hrest⟩ := runsClean_cons.mp hclean
    exact ih (consistent_perform h _ hcall) (holds_enter h hholds edit hcall) hrest

theorem run_map_enter (edits : List Edit) :
    document.run (edits.map .enter) = document.edited edits := List.foldl_map

theorem consistent_edited (limits : Limits) {edits : List Edit}
    (hclean : (fresh limits).runsClean (edits.map .enter) = true) :
    ((fresh limits).edited edits).Consistent := by
  rw [← run_map_enter]
  exact consistent_run (consistent_fresh limits) _ hclean

theorem holds_edited (limits : Limits) {edits : List Edit}
    (hclean : (fresh limits).runsClean (edits.map .enter) = true) :
    ((fresh limits).edited edits).Holds (lastTyped edits) := by
  rw [← run_map_enter]
  exact holds_run (consistent_fresh limits) (holds_fresh limits) edits hclean

/-- **It does not matter how a document was edited.**  After two clean runs of edits that
typed the same into each cell last, all cells show the same and the graphs are equal, and
calculating the whole sheet rejects nothing and changes nothing. -/
theorem edits_path_independent (limits : Limits) (first second : List Edit)
    (hfirst : (fresh limits).runsClean (first.map .enter) = true)
    (hsecond : (fresh limits).runsClean (second.map .enter) = true)
    (hsame : ∀ place, Text.trim (lastTyped first place) = Text.trim (lastTyped second place)) :
    (∀ place, ((fresh limits).edited first).sheet.displayAt place =
        ((fresh limits).edited second).sheet.displayAt place) ∧
      ((fresh limits).edited first).graph = ((fresh limits).edited second).graph ∧
      (∃ summary, ((fresh limits).edited first).calculateAll =
        (.ok summary, (fresh limits).edited first) ∧ summary.rejected = 0) ∧
      ∃ summary, ((fresh limits).edited second).calculateAll =
        (.ok summary, (fresh limits).edited second) ∧ summary.rejected = 0 := by
  have h₁ := consistent_edited limits hfirst
  have h₂ := consistent_edited limits hsecond
  have hholds₁ := holds_edited limits hfirst
  have hholds₂ := holds_edited limits hsecond
  have hlimits : ((fresh limits).edited first).limits = ((fresh limits).edited second).limits :=
    (sound_edited (sound_fresh limits) first).2.trans
      (sound_edited (sound_fresh limits) second).2.symm
  have hformulas : ∀ place, ((fresh limits).edited first).sheet.formulaAt? place =
      ((fresh limits).edited second).sheet.formulaAt? place := by
    intro place
    rw [hholds₁.formula, hholds₂.formula, Cell.ofInput_congr (hsame place)]
  have hplain : ∀ place : CellRef, ((fresh limits).edited first).sheet.formulaAt? place = none →
      ((fresh limits).edited first).sheet.displayAt place =
        ((fresh limits).edited second).sheet.displayAt place := by
    intro place hnone
    rw [Sheet.displayAt_eq_display_getD, Sheet.displayAt_eq_display_getD,
      hholds₁.plain place hnone, hholds₂.plain place ((hformulas place).symm.trans hnone),
      Cell.ofInput_congr (hsame place)]
  exact ⟨h₁.displayAt_eq h₂ hlimits hformulas hplain, h₁.graph_eq h₂.toWired hformulas,
    ⟨_, calculateAll_of_consistent h₁, h₁.tally_rejected⟩,
    ⟨_, calculateAll_of_consistent h₂, h₂.tally_rejected⟩⟩

/-- `A1` is changed after `B1` came to read it, and `C1` comes and goes. -/
def detour : List Edit :=
  [⟨"A1", "1"⟩, ⟨"B1", "=A1+C1"⟩, ⟨"C1", "=A1/0"⟩, ⟨"a1", "5"⟩, ⟨"C1", " "⟩, ⟨"A0", "7"⟩]

/-- The same cells filled in at once. -/
def direct : List Edit := [⟨"B1", " =A1+C1"⟩, ⟨"A1", "5 "⟩]

/-- Three cells matter, and in each of them both leave the same text up to blanks. -/
theorem trim_lastTyped_detour (place : CellRef) :
    Text.trim (lastTyped detour place) = Text.trim (lastTyped direct place) := by
  by_cases hA : place = ⟨0, 0⟩
  · rw [hA]
    decide +kernel
  by_cases hB : place = ⟨0, 1⟩
  · rw [hB]
    decide +kernel
  by_cases hC : place = ⟨0, 2⟩
  · rw [hC]
    decide +kernel
  have hdetour : lastTyped detour = Function.update (Function.update (Function.update
      (Function.update (Function.update (fun _ => "") ⟨0, 0⟩ "1") ⟨0, 1⟩ "=A1+C1")
        ⟨0, 2⟩ "=A1/0") ⟨0, 0⟩ "5") ⟨0, 2⟩ " " := rfl
  have hdirect : lastTyped direct = Function.update (Function.update (fun _ => "")
      ⟨0, 1⟩ " =A1+C1") ⟨0, 0⟩ "5 " := rfl
  simp only [hdetour, hdirect, Function.update_of_ne hA, Function.update_of_ne hB,
    Function.update_of_ne hC]

set_option maxRecDepth 100000 in
theorem detour_direct :
    ((fresh {}).edited detour).sheet.displayAt ⟨0, 1⟩ =
        ((fresh {}).edited direct).sheet.displayAt ⟨0, 1⟩ ∧
      ((fresh {}).edited detour).graph = ((fresh {}).edited direct).graph := by
  obtain ⟨hdisplay, hgraph, -, -⟩ := edits_path_independent {} detour direct (by decide +kernel)
    (by decide +kernel) trim_lastTyped_detour
  exact ⟨hdisplay ⟨0, 1⟩, hgraph⟩

end Document
end Gridcalc
