import Gridcalc.Proofs.Sheet.Text

/-! # The normal form of a sheet's text

A sheet can be described in many texts: in any order of lines, with comments between them, with
several lines for one cell, and with addresses in small letters or with leading zeros.  What is
written for a sheet that was read is one of them, and the normal form of all that describe it.

A line that was read enters a trimmed text without a line feed into a cell with an address, and a
sheet that was read holds such cells only (`Sheet.AsRead`).  So a file keeps all of it
(`Sheet.AsRead.recorded_eq`), which is to say that reading undoes writing, and writing again gives
the same text (`Sheet.toText_normal_form`).
-/
namespace Gridcalc

namespace Cell

/-- A text that is entered keeps all that its cell holds. -/
theorem ofInput_inputText (typed : String) : ofInput (ofInput typed).inputText = ofInput typed := by
  rw [inputText_ofInput]
  exact ofInput_congr (Text.trim_trim typed)

/-- Nothing is left of a text that leaves its cell blank. -/
theorem inputText_ofInput_ne {typed : String} (h : ofInput typed ≠ .blank) :
    (ofInput typed).inputText ≠ "" := by
  intro hempty
  rw [inputText_ofInput] at hempty
  refine h ?_
  rw [ofInput, hempty]
  rfl

end Cell

namespace CellRef

/-- Cells are ordered row by row, and within a row from left to right. -/
theorem compare_eq_lt_iff {first second : CellRef} : compare first second = .lt ↔
    first.row < second.row ∨ first.row = second.row ∧ first.col < second.col := by
  show (compare first.row second.row).then (compare first.col second.col) = .lt ↔ _
  rw [Ordering.then_eq_lt, Std.compare_eq_lt, Std.compare_eq_iff_eq, Std.compare_eq_lt]

end CellRef

namespace Sheet
variable {sheet : Sheet} {content : String}

/-! ### Sheets that were read -/

/-- **A sheet as it is read**: each cell has an address, and holds what its input enters and
nothing else.  The input is a text on one line, and there is one. -/
structure AsRead (sheet : Sheet) : Prop where
  named : ∀ (place : CellRef) (cell : Cell), sheet[place]? = some cell → place.Named
  entered : ∀ (place : CellRef) (cell : Cell), sheet[place]? = some cell →
    cell = .ofInput cell.inputText
  nonempty : ∀ (place : CellRef) (cell : Cell), sheet[place]? = some cell → cell.inputText ≠ ""
  oneLine : ∀ place, '\n' ∉ (sheet.inputAt place).toList

theorem asRead_of_ofText (h : ofText content = .ok sheet) : sheet.AsRead where
  named := allNamed_of_ofText h
  entered := forall_of_ofText (fun _ _ _ typed _ _ => (Cell.ofInput_inputText typed).symm) h
  nonempty := forall_of_ofText (fun _ _ _ _ _ hne => Cell.inputText_ofInput_ne hne) h
  oneLine := not_mem_inputAt_of_ofText h

theorem exists_of_inputAt_ne {place : CellRef} (h : sheet.inputAt place ≠ "") :
    ∃ cell, sheet[place]? = some cell := by
  cases hcell : sheet[place]? with
  | some cell => exact ⟨cell, rfl⟩
  | none =>
    rw [inputAt, Std.ExtTreeMap.getD_eq_getD_getElem?, hcell] at h
    exact absurd rfl h

namespace AsRead
variable (h : sheet.AsRead)
include h

/-- A sheet that was read can be written. -/
theorem writable : sheet.Writable where
  named := by
    intro place hne
    obtain ⟨cell, hcell⟩ := exists_of_inputAt_ne hne
    exact h.named place cell hcell
  trimmed := by
    intro place
    by_cases hempty : sheet.inputAt place = ""
    · rw [hempty]
      decide
    · obtain ⟨cell, hcell⟩ := exists_of_inputAt_ne hempty
      rw [inputAt_of_getElem? hcell]
      conv => rhs; rw [h.entered place cell hcell, Cell.inputText_ofInput]
  oneLine := h.oneLine

/-- **A file keeps all of a sheet that was read.** -/
theorem recorded_eq : sheet.recorded = sheet := by
  refine Std.ExtTreeMap.ext_getElem? fun place => ?_
  rw [getElem?_recorded]
  cases hcell : sheet[place]? with
  | none =>
    have hinput : sheet.inputAt place = "" := by
      by_contra hne
      obtain ⟨cell, hfound⟩ := exists_of_inputAt_ne hne
      rw [hcell] at hfound
      cases hfound
    rw [if_pos hinput]
  | some cell =>
    rw [inputAt_of_getElem? hcell, if_neg (h.nonempty place cell hcell),
      ← h.entered place cell hcell]

/-- **Reading undoes writing.** -/
theorem ofText_toText : ofText sheet.toText = .ok sheet := by
  rw [h.writable.ofText_toText, h.recorded_eq]

/-- Behind the header there is one line for each cell. -/
theorem lines_toText : Text.lines sheet.toText.toList =
    ("# Cubecell Spreadsheet" :: sheet.toList.map fun entry =>
      line entry.1 entry.2.inputText).map String.toList := by
  rw [h.writable.lines_toText, h.writable.cellLines, h.recorded_eq]

end AsRead

/-! ### The normal form -/

/-- The cells of a sheet are listed row by row, and within a row from left to right. -/
theorem toList_rowMajor (sheet : Sheet) : sheet.toList.Pairwise fun first second =>
    first.1.row < second.1.row ∨ first.1.row = second.1.row ∧ first.1.col < second.1.col :=
  Std.ExtTreeMap.ordered_keys_toList.imp CellRef.compare_eq_lt_iff.mp

/-- **What is written for a sheet that was read is a normal form.**  It is read as a sheet with the
same cells, for which the same text is written.  Behind the header it has one line for each cell,
and their cells come row by row, and within a row from left to right. -/
theorem toText_normal_form (h : ofText content = .ok sheet) :
    (∃ again, ofText sheet.toText = .ok again ∧
      (∀ place : CellRef, again[place]? = sheet[place]?) ∧ again.toText = sheet.toText) ∧
    Text.lines sheet.toText.toList = ("# Cubecell Spreadsheet" :: sheet.toList.map fun entry =>
      line entry.1 entry.2.inputText).map String.toList ∧
    (∀ (place : CellRef) (cell : Cell),
      (place, cell) ∈ sheet.toList ↔ sheet[place]? = some cell) ∧
    sheet.toList.Pairwise fun first second =>
      first.1.row < second.1.row ∨ first.1.row = second.1.row ∧ first.1.col < second.1.col := by
  have hread := asRead_of_ofText h
  exact ⟨⟨sheet, hread.ofText_toText, fun _ => rfl, rfl⟩, hread.lines_toText,
    fun _ _ => Std.ExtTreeMap.mem_toList_iff_getElem?_eq_some, sheet.toList_rowMajor⟩

/-- Lines out of order, closed in both ways, with comments and blanks of several kinds, with three
lines for one cell, of which the last enters nothing, and with the last cell that has an
address. -/
def mixedLines : String :=
  "gkgwbylwrxtlpo018446744073709551615:end\nb02: =A1\t\r\n\u3000# note\n\nA1:x\r\n a1 : 7: 8\nA001:"

/-- The lines of the same sheet as they are written. -/
def mixedLinesWritten : String :=
  "# Cubecell Spreadsheet\nA1: 7: 8\nB2: =A1\nGKGWBYLWRXTLPO18446744073709551615: end\n"

set_option maxRecDepth 100000 in
theorem mixedLines_normal_form : ∃ sheet, ofText mixedLines = .ok sheet ∧
    sheet.toText = mixedLinesWritten ∧ ∃ again, ofText sheet.toText = .ok again ∧
      (∀ place : CellRef, again[place]? = sheet[place]?) ∧ again.toText = sheet.toText := by
  have htext : (ofText mixedLines).toOption.map toText = some mixedLinesWritten := by
    decide +kernel
  obtain ⟨sheet, hsheet, hwritten⟩ := Option.map_eq_some_iff.mp htext
  cases h : ofText mixedLines with
  | error fault =>
    rw [h] at hsheet
    cases hsheet
  | ok found =>
    rw [h] at hsheet
    obtain rfl := Option.some.inj hsheet
    exact ⟨found, rfl, hwritten, (toText_normal_form h).1⟩

end Sheet
end Gridcalc
