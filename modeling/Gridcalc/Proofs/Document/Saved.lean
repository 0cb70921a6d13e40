import Gridcalc.Proofs.Document.Input
import Gridcalc.Proofs.Document.Run

/-! # Documents that are saved and loaded again

After any edits the input of a cell is what was typed last into it, trimmed
(`Document.inputAt_edited`): a rejected edit counts as well, and a text that names no cell types
nothing.  Only cells with an address have an input, so the sheet of the document comes back from
its file exactly when no such text holds a line feed (`Document.edited_reloads_iff`).

A line feed inside a text is written as it is, and what follows it is read as a line of its own.
So the text of one cell can come back as another cell (`Document.brokenLine_splits`).
-/
namespace Gridcalc.Document
variable {document : Document} {place : CellRef}

/-- An edit leaves in each cell what was typed last into it. -/
theorem inputAt_enterAt {typed : CellRef → String}
    (h : document.sheet.inputAt = Text.trim ∘ typed) (edit : Edit) :
    (document.enterAt edit.address edit.typed).2.sheet.inputAt = Text.trim ∘ typing typed edit := by
  unfold enterAt typing
  cases CellRef.parse edit.address with
  | error error => exact h
  | ok place =>
    show (document.enter place edit.typed).2.sheet.inputAt = _
    rw [inputAt_enter, h]
    exact (Function.comp_update Text.trim typed place edit.typed).symm

/-- **After any edits each cell holds what was typed last into it,** without blanks around it. -/
theorem inputAt_edited (limits : Limits) (edits : List Edit) :
    ((fresh limits).edited edits).sheet.inputAt = Text.trim ∘ lastTyped edits := by
  -- The document and what was typed into it change together, so the induction is over both.
  have hall : ∀ (edits : List Edit) (document : Document) (typed : CellRef → String),
      document.sheet.inputAt = Text.trim ∘ typed →
      (document.edited edits).sheet.inputAt = Text.trim ∘ edits.foldl typing typed := by
    intro edits
    induction edits with
    | nil => exact fun _ _ h => h
    | cons edit rest ih => exact fun _ _ h => ih _ _ (inputAt_enterAt h edit)
  exact hall edits _ _ Sheet.inputAt_empty

/-- Something was typed into cells with an address only. -/
theorem named_of_lastTyped {edits : List Edit} (h : lastTyped edits place ≠ "") :
    place.Named := by
  have hall : ∀ (edits : List Edit) (typed : CellRef → String),
      (∀ place, typed place ≠ "" → place.Named) →
      ∀ place, edits.foldl typing typed place ≠ "" → place.Named := by
    intro edits
    induction edits with
    | nil => exact fun _ htyped => htyped
    | cons edit rest ih =>
      refine fun typed htyped => ih _ fun place hplace => ?_
      unfold typing at hplace
      cases hparse : CellRef.parse edit.address with
      | error error =>
        rw [hparse] at hplace
        exact htyped place hplace
      | ok target =>
        by_cases he : place = target
        · exact he ▸ CellRef.named_of_parse hparse
        · rw [hparse] at hplace
          exact htyped place (by simpa [Function.update_of_ne he] using hplace)
  exact hall edits _ (fun _ hne => absurd rfl hne) place h

/-- **When a saved sheet comes back.**  After any edits, rejected ones included, the text of the
sheet is read as a sheet with the same input in every cell, and with no cell that has none,
exactly when no text that was typed last into a cell holds a line feed between its first and its
last character that is no blank. -/
theorem edited_reloads_iff (limits : Limits) (edits : List Edit) :
    ((fresh limits).edited edits).sheet.Reloads ↔
      ∀ place, '\n' ∉ (Text.trim (lastTyped edits place)).toList := by
  have hinput : ∀ place, ((fresh limits).edited edits).sheet.inputAt place =
      Text.trim (lastTyped edits place) := congrFun (inputAt_edited limits edits)
  rw [Sheet.reloads_iff (fun place hne => ?_) fun place => ?_]
  · simp only [hinput]
  · have htyped : lastTyped edits place ≠ "" := by
      intro hempty
      rw [hinput, hempty] at hne
      exact hne (by decide)
    exact named_of_lastTyped htyped
  · rw [hinput, Text.trim_trim]

/-- A text of two lines, the second of which looks like a cell. -/
def brokenLine : List Edit := [⟨"A1", "1\nB1: 2"⟩]

set_option maxRecDepth 100000 in
/-- **The text of one cell can be read as another cell.**  What was typed into `A1` comes back as
`A1` and `B1`, so not every sheet comes back from its text. -/
theorem brokenLine_splits :
    (∃ read, Sheet.ofText ((fresh {}).edited brokenLine).sheet.toText = .ok read ∧
      read.inputAt ⟨0, 0⟩ = "1" ∧ read.inputAt ⟨0, 1⟩ = "2") ∧
    ¬ ∀ (limits : Limits) (edits : List Edit), ((fresh limits).edited edits).sheet.Reloads := by
  have hread : (Sheet.ofText ((fresh {}).edited brokenLine).sheet.toText).toOption.map
      (fun read => (read.inputAt ⟨0, 0⟩, read.inputAt ⟨0, 1⟩)) = some ("1", "2") := by
    decide +kernel
  obtain ⟨read, hok, hinputs⟩ := Option.map_eq_some_iff.mp hread
  obtain ⟨hfirst, hsecond⟩ := Prod.mk.inj hinputs
  have hofText : Sheet.ofText ((fresh {}).edited brokenLine).sheet.toText = .ok read := by
    cases h : Sheet.ofText ((fresh {}).edited brokenLine).sheet.toText with
    | error error =>
      rw [h] at hok
      cases hok
    | ok found =>
      rw [h] at hok
      rw [Option.some.inj hok]
  refine ⟨⟨read, hofText, hfirst, hsecond⟩, fun hall => ?_⟩
  obtain ⟨other, hother, hsame⟩ := hall {} brokenLine
  obtain rfl := Except.ok.inj (hofText.symm.trans hother)
  have htext : ((fresh {}).edited brokenLine).sheet.inputAt ⟨0, 0⟩ = "1\nB1: 2" := by
    decide +kernel
  rw [(hsame ⟨0, 0⟩).1, htext] at hfirst
  exact absurd hfirst (by decide)

end Gridcalc.Document
