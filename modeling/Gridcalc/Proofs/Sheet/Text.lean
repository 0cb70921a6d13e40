import Gridcalc.Proofs.Cell
import Gridcalc.Proofs.Sheet
import Gridcalc.Proofs.Sheet.Reading

/-! # Sheets as text

What holds of every cell that a line enters holds of every cell of a sheet that was read
(`Sheet.forall_of_ofText`): its address reads back, and what is entered stands on one line.

A sheet file keeps the inputs of a sheet and nothing else (`Sheet.recorded`).  A sheet is
*writable* when each of its inputs is a trimmed text without a line feed, in a cell with an
address (`Sheet.Writable`).  Then every written line reads as the cell it was written for, and
the file gives back what was recorded (`Sheet.Writable.ofText_toText`).  An input with a line
feed cannot come back at all, since no line that is read holds one.  So a sheet whose inputs are
trimmed texts in cells with an address comes back exactly when none of them holds a line feed
(`Sheet.reloads_iff`).
-/
namespace Gridcalc

/-! ### Trimmed texts -/

namespace Text
variable {cs before : List Char} {text : String}

theorem trimStart_of_trimChars (h : trimChars cs = cs) : trimStart cs = cs := by
  refine List.IsSuffix.eq_of_length_le (List.dropWhile_suffix isBlank) ?_
  have hle : (trimChars cs).length ≤ (trimStart cs).length := by
    rw [trimChars, trimEnd_eq_rdropWhile]
    exact (List.rdropWhile_prefix isBlank _).length_le
  rwa [h] at hle

theorem trimEnd_of_trimChars (h : trimChars cs = cs) : trimEnd cs = cs := by
  rw [trimChars, trimStart_of_trimChars h] at h
  exact h

theorem trimChars_subset : trimChars cs ⊆ cs := by
  rw [trimChars, trimEnd_eq_rdropWhile]
  exact List.Subset.trans (List.rdropWhile_prefix isBlank _).subset
    (List.dropWhile_suffix isBlank).subset

theorem trimChars_toList (h : trim text = text) : trimChars text.toList = text.toList := by
  have hlist := congrArg String.toList h
  rwa [trim, String.toList_ofList] at hlist

/-- A trimmed text ends in no blank. -/
theorem isBlank_getLast_of_trim (h : trim text = text) (hne : text.toList ≠ []) :
    ¬ isBlank (text.toList.getLast hne) = true := by
  have hend := trimEnd_of_trimChars (trimChars_toList h)
  rw [trimEnd_eq_rdropWhile] at hend
  exact List.rdropWhile_eq_self_iff.mp hend hne

theorem trim_ofList_cons_blank {c : Char} (h : isBlank c = true) :
    trim (String.ofList (c :: cs)) = trim (String.ofList cs) := by
  rw [trim, trim, String.toList_ofList, String.toList_ofList, trimChars, trimChars, trimStart,
    List.dropWhile_cons_of_pos h]
  rfl

/-- A text between two characters that are no blanks is trimmed. -/
theorem trimChars_eq_self {c d : Char} (hfirst : cs.head? = some c) (hc : ¬ isBlank c = true)
    (hlast : cs.getLast? = some d) (hd : ¬ isBlank d = true) : trimChars cs = cs := by
  obtain ⟨rest, rfl⟩ := List.head?_eq_some_iff.mp hfirst
  rw [trimChars, trimStart, List.dropWhile_cons_of_neg hc, trimEnd_eq_rdropWhile]
  refine List.rdropWhile_eq_self_iff.mpr fun hne => ?_
  rw [List.getLast?_eq_some_getLast hne] at hlast
  rwa [Option.some.inj hlast]

/-- A text without blanks is trimmed. -/
theorem trimChars_of_not_isBlank (h : ∀ c ∈ cs, ¬ isBlank c = true) : trimChars cs = cs := by
  have hstart : trimStart cs = cs :=
    List.dropWhile_eq_self_iff.mpr fun hlength => h _ (List.getElem_mem hlength)
  rw [trimChars, hstart, trimEnd_eq_rdropWhile]
  exact List.rdropWhile_eq_self_iff.mpr fun hne => h _ (List.getLast_mem hne)

end Text

namespace Cell

theorem inputText_ofInput (typed : String) : (ofInput typed).inputText = Text.trim typed := by
  unfold ofInput
  simp only
  split
  · rename_i hempty
    rw [String.isEmpty_iff.mp hempty]
    rfl
  · split <;> rfl

theorem ofInput_congr {first second : String} (h : Text.trim first = Text.trim second) :
    ofInput first = ofInput second := by rw [ofInput, ofInput, h]

theorem ofInput_space (text : String) : ofInput (" " ++ text) = ofInput text := by
  have hlist : " " ++ text = String.ofList (' ' :: text.toList) := by
    rw [← String.toList_inj, String.toList_ofList, String.toList_append]
    rfl
  refine ofInput_congr ?_
  rw [hlist, Text.trim_ofList_cons_blank rfl, String.ofList_toList]

end Cell

namespace CellRef

theorem isAlpha_or_isDigit_of_mem_address {cell : CellRef} {c : Char}
    (h : c ∈ cell.address.toList) : c.isAlpha = true ∨ c.isDigit = true := by
  rw [toList_address, List.mem_append] at h
  rcases h with h | h
  · exact Or.inl (Address.isAlpha_of_mem_columnLetters h)
  · exact Or.inr (Nat.isDigit_of_mem_toDigits (by decide) (by decide) h)

/-- An address holds letters and digits only, so neither blanks nor the mark behind it. -/
theorem toNat_of_mem_address {cell : CellRef} {c : Char} (h : c ∈ cell.address.toList) :
    (48 ≤ c.toNat ∧ c.toNat ≤ 57) ∨ (65 ≤ c.toNat ∧ c.toNat ≤ 90) ∨
      (97 ≤ c.toNat ∧ c.toNat ≤ 122) := by
  rcases isAlpha_or_isDigit_of_mem_address h with h | h
  · rcases Bool.or_eq_true_iff.mp h with hupper | hlower
    · obtain ⟨hfirst, hlast⟩ := of_decide_eq_true hupper
      exact Or.inr (Or.inl
        ⟨UInt32.le_iff_toNat_le.mp hfirst, UInt32.le_iff_toNat_le.mp hlast⟩)
    · obtain ⟨hfirst, hlast⟩ := Bool.and_eq_true_iff.mp hlower
      exact Or.inr (Or.inr ⟨UInt32.le_iff_toNat_le.mp (of_decide_eq_true hfirst),
        UInt32.le_iff_toNat_le.mp (of_decide_eq_true hlast)⟩)
  · exact Or.inl (Char.isDigit_iff_toNat.mp h)

theorem not_isBlank_of_mem_address {cell : CellRef} {c : Char} (h : c ∈ cell.address.toList) :
    ¬ Text.isBlank c = true := by
  have hcode := toNat_of_mem_address h
  simp only [Text.isBlank, Bool.or_eq_true, Bool.and_eq_true, decide_eq_true_eq, beq_iff_eq]
  omega

theorem colon_not_mem_address (cell : CellRef) : ':' ∉ cell.address.toList := by
  intro h
  have hcode := toNat_of_mem_address h
  have hcolon : ':'.toNat = 58 := rfl
  omega

end CellRef

namespace Sheet
variable {sheet read : Sheet} {place : CellRef} {cell : Cell} {text : String}

/-! ### Sheets that were read -/

/-- What a line enters stands on this line. -/
theorem Enters.subset {line : List Char} (h : Enters line place text) : text.toList ⊆ line := by
  obtain ⟨_, ⟨-, front, hline, -, -⟩, -⟩ := h
  intro c hc
  refine Text.trimChars_subset ?_
  rw [hline]
  exact List.mem_append_right _ (List.mem_cons_of_mem _ hc)

theorem Enters.named {line : List Char} (h : Enters line place text) : place.Named := by
  obtain ⟨_, -, hparse⟩ := h
  exact CellRef.named_of_parse hparse

/-- All cells of a sheet have an address. -/
def AllNamed (sheet : Sheet) : Prop := ∀ (place : CellRef) (cell : Cell),
  sheet[place]? = some cell → place.Named

/-- What holds of every cell that is entered holds of every cell afterwards. -/
theorem forall_of_foldl_keep {P : CellRef → Cell → Prop} {entries : List (CellRef × String)}
    (hentries : ∀ entry ∈ entries, Cell.ofInput entry.2 ≠ .blank → P entry.1 (.ofInput entry.2))
    (hsheet : ∀ (place : CellRef) (cell : Cell), sheet[place]? = some cell → P place cell) :
    ∀ (place : CellRef) (cell : Cell), (entries.foldl keep sheet)[place]? = some cell →
      P place cell := by
  induction entries generalizing sheet with
  | nil => exact hsheet
  | cons entry rest ih =>
    obtain ⟨hentry, hrest⟩ := List.forall_mem_cons.mp hentries
    refine ih hrest fun other found hfound => ?_
    unfold keep at hfound
    split at hfound
    · exact hsheet other found hfound
    · -- An entry replaces what the entries before it left in the same cell.
      rename_i hne
      by_cases he : other = entry.1
      · subst he
        obtain rfl := Option.some.inj (Std.ExtTreeMap.getElem?_insert_self.symm.trans hfound)
        exact hentry hne
      · rw [getElem?_insert_of_ne he] at hfound
        exact hsheet other found hfound

/-- **What holds of every cell that a line enters holds of every cell of a sheet that was read.**
A line with nothing to enter leaves no cell behind. -/
theorem forall_of_ofText {P : CellRef → Cell → Prop} {content : String}
    (hline : ∀ line ∈ Text.lines content.toList, ∀ place typed, Enters line place typed →
      Cell.ofInput typed ≠ .blank → P place (.ofInput typed))
    (h : ofText content = .ok sheet) :
    ∀ (place : CellRef) (cell : Cell), sheet[place]? = some cell → P place cell := by
  obtain ⟨entries, hentries, rfl⟩ := exists_entries_of_ofText h
  refine forall_of_foldl_keep (fun entry hentry hne => ?_) fun place cell hcell => ?_
  · obtain ⟨line, hmem, henters⟩ := hentries.exists_of_mem hentry
    exact hline line hmem _ _ henters hne
  · rw [Std.ExtTreeMap.getElem?_empty] at hcell
    cases hcell

theorem allNamed_of_ofText {content : String} (h : ofText content = .ok sheet) :
    sheet.AllNamed :=
  forall_of_ofText (fun _ _ _ _ henters _ => henters.named) h

theorem AllNamed.formula (h : sheet.AllNamed) {formula : String}
    (hformula : sheet.formulaAt? place = some formula) : place.Named := by
  obtain ⟨cell, hcell, -⟩ := formulaAt?_eq_some.mp hformula
  exact h place cell hcell

/-! ### What a file records -/

/-- The text to edit in a cell, empty for a cell that is not stored. -/
def inputAt (sheet : Sheet) (place : CellRef) : String := (sheet.getD place .blank).inputText

theorem inputAt_empty : (∅ : Sheet).inputAt = fun _ => "" :=
  funext fun _ => congrArg Cell.inputText Std.ExtTreeMap.getD_empty

/-- **What a file keeps of a sheet**: its inputs, entered into an empty sheet. -/
def recorded (sheet : Sheet) : Sheet :=
  sheet.filterMap fun _ cell =>
    if cell.inputText = "" then none else some (.ofInput cell.inputText)

theorem inputAt_of_getElem? (h : sheet[place]? = some cell) :
    sheet.inputAt place = cell.inputText := by
  rw [inputAt, Std.ExtTreeMap.getD_eq_getD_getElem?, h]
  rfl

theorem getElem?_recorded : sheet.recorded[place]? =
    if sheet.inputAt place = "" then none else some (.ofInput (sheet.inputAt place)) := by
  rw [recorded, Std.ExtTreeMap.getElem?_filterMap']
  cases h : sheet[place]? with
  | none =>
    have hinput : sheet.inputAt place = "" := by
      rw [inputAt, Std.ExtTreeMap.getD_eq_getD_getElem?, h]
      rfl
    rw [if_pos hinput]
    rfl
  | some cell =>
    rw [inputAt_of_getElem? h]
    rfl

/-- **A sheet that a file can hold**: each input is a trimmed text on one line, in a cell with an
address. -/
structure Writable (sheet : Sheet) : Prop where
  named : ∀ place, sheet.inputAt place ≠ "" → place.Named
  trimmed : ∀ place, Text.trim (sheet.inputAt place) = sheet.inputAt place
  oneLine : ∀ place, '\n' ∉ (sheet.inputAt place).toList

/-! ### One line -/

/-- The line of a cell with this input. -/
def line (place : CellRef) (text : String) : String := place.address ++ ": " ++ text

theorem exists_address_eq_cons (place : CellRef) :
    ∃ c rest, place.address.toList = c :: rest := by
  refine List.exists_cons_of_ne_nil fun hnil => ?_
  rw [CellRef.toList_address] at hnil
  exact Address.columnLetters_succ_ne_nil _ (List.append_eq_nil_iff.mp hnil).1

theorem toList_line (place : CellRef) (text : String) :
    (line place text).toList = place.address.toList ++ ':' :: ' ' :: text.toList := by
  simp [line]

theorem not_mem_line (h : '\n' ∉ text.toList) : '\n' ∉ (line place text).toList := by
  have haddress : '\n' ∉ place.address.toList := fun hmem =>
    CellRef.not_isBlank_of_mem_address hmem rfl
  rw [toList_line]
  simp [h, haddress]

section Line
variable (htrim : Text.trim text = text) (hne : text ≠ "")
include htrim hne

/-- A written line ends as its text does. -/
theorem exists_getLast?_line (place : CellRef) :
    ∃ c, (line place text).toList.getLast? = some c ∧ ¬ Text.isBlank c = true := by
  have hlist : text.toList ≠ [] := fun h => hne (String.toList_eq_nil_iff.mp h)
  refine ⟨text.toList.getLast hlist, ?_, Text.isBlank_getLast_of_trim htrim hlist⟩
  rw [line, String.toList_append, List.getLast?_append, List.getLast?_eq_some_getLast hlist]
  rfl

/-- A carriage return is a blank. -/
theorem getLast?_line_ne : (line place text).toList.getLast? ≠ some '\r' := by
  obtain ⟨c, hlast, hc⟩ := exists_getLast?_line htrim hne place
  rw [hlast]
  rintro ⟨⟩
  exact hc rfl

theorem trimChars_line (place : CellRef) :
    Text.trimChars (line place text).toList = (line place text).toList := by
  obtain ⟨c, rest, hlist⟩ := exists_address_eq_cons place
  obtain ⟨d, hlast, hd⟩ := exists_getLast?_line htrim hne place
  have hc : c ∈ place.address.toList := hlist ▸ List.mem_cons_self
  refine Text.trimChars_eq_self (c := c) ?_ (CellRef.not_isBlank_of_mem_address hc) hlast hd
  rw [toList_line, hlist]
  rfl

/-- **A written line enters the text it was written for.** -/
theorem enters_line (hplace : place.Named) :
    Enters (line place text).toList place (" " ++ text) := by
  have hchars := trimChars_line htrim hne place
  obtain ⟨c, rest, hlist⟩ := exists_address_eq_cons place
  -- An address begins with a letter, so its line is not passed over as a comment.
  have hc : c ≠ '#' := by
    have hmem : c ∈ place.address.toList := hlist ▸ List.mem_cons_self
    have hcode := CellRef.toNat_of_mem_address hmem
    have hmark : '#'.toNat = 35 := rfl
    rintro rfl
    omega
  have hcounts : ¬ Passed (line place text).toList := by
    rw [Passed, hchars, toList_line, hlist]
    simp [hc]
  have haddress : Text.trim place.address = place.address := by
    rw [Text.trim, Text.trimChars_of_not_isBlank fun _ => CellRef.not_isBlank_of_mem_address,
      String.ofList_toList]
  refine ⟨place.address, ⟨hcounts, place.address.toList, ?_,
    CellRef.colon_not_mem_address place, ?_⟩, hplace⟩
  · rw [hchars, toList_line, String.toList_append]
    rfl
  · rw [String.ofList_toList, haddress]

end Line

/-! ### All lines -/

/-- What a file records comes in the order of the sheet. -/
theorem toList_recorded : sheet.recorded.toList = sheet.toList.filterMap fun entry =>
    if entry.2.inputText = "" then none else some (entry.1, .ofInput entry.2.inputText) := by
  rw [recorded, Std.ExtTreeMap.toList_filterMap]
  refine List.filterMap_congr fun entry _ => ?_
  split <;> rfl

theorem Writable.of_mem_recorded (h : sheet.Writable)
    (hmem : (place, cell) ∈ sheet.recorded.toList) :
    place.Named ∧ cell = .ofInput cell.inputText ∧
      Text.trim cell.inputText = cell.inputText ∧ cell.inputText ≠ "" ∧
      '\n' ∉ cell.inputText.toList := by
  have hcell := Std.ExtTreeMap.mem_toList_iff_getElem?_eq_some.mp hmem
  rw [getElem?_recorded] at hcell
  split at hcell
  · cases hcell
  · rename_i hne
    obtain rfl := Option.some.inj hcell
    have htext : (Cell.ofInput (sheet.inputAt place)).inputText = sheet.inputAt place :=
      (Cell.inputText_ofInput _).trans (h.trimmed place)
    rw [htext]
    exact ⟨h.named place hne, rfl, h.trimmed place, hne, h.oneLine place⟩

/-- **The lines of a writable sheet are those of what is recorded.** -/
theorem Writable.cellLines (h : sheet.Writable) : sheet.cellLines Cell.inputText =
    sheet.recorded.toList.map fun entry => line entry.1 entry.2.inputText := by
  rw [Sheet.cellLines, toList_recorded, List.map_filterMap]
  refine List.filterMap_congr fun entry hentry => ?_
  have hinput : sheet.inputAt entry.1 = entry.2.inputText :=
    inputAt_of_getElem? (Std.ExtTreeMap.mem_toList_iff_getElem?_eq_some.mp hentry)
  have htrimmed := h.trimmed entry.1
  rw [hinput] at htrimmed
  by_cases hempty : entry.2.inputText = ""
  · simp [hempty]
  · simp [hempty, Cell.inputText_ofInput, htrimmed, line]

/-- Lines that were written for cells enter these cells. -/
theorem readLines_map_line : ∀ (entries : List (CellRef × Cell)) (number : Nat) (sheet : Sheet),
    (∀ entry ∈ entries, entry.1.Named ∧ entry.2 = .ofInput entry.2.inputText ∧
      Text.trim entry.2.inputText = entry.2.inputText ∧ entry.2.inputText ≠ "") →
    readLines number sheet ((entries.map fun entry => line entry.1 entry.2.inputText).map
      String.toList) = .ok (sheet.insertMany entries)
  | [], _, sheet, _ => by rw [Std.ExtTreeMap.insertMany_nil]; rfl
  | (place, cell) :: rest, number, sheet, h => by
    obtain ⟨⟨hnamed, hcell, htrim, hne⟩, hrest⟩ := List.forall_mem_cons.mp h
    have hblank : cell ≠ .blank := by
      rintro rfl
      exact hne rfl
    have hinput : Cell.ofInput (" " ++ cell.inputText) = cell :=
      (Cell.ofInput_space cell.inputText).trans hcell.symm
    have hkeep : sheet.keep (place, " " ++ cell.inputText) = sheet.insert place cell := by
      simp only [keep, hinput, if_neg hblank]
    rw [List.map_cons, List.map_cons, readLines_enters (enters_line htrim hne hnamed), hkeep,
      Std.ExtTreeMap.insertMany_cons]
    exact readLines_map_line rest _ _ hrest

theorem insertMany_toList (sheet : Sheet) : (∅ : Sheet).insertMany sheet.toList = sheet := by
  refine Std.ExtTreeMap.ext_getElem? fun place => ?_
  cases h : sheet[place]? with
  | none =>
    rw [Std.ExtTreeMap.getElem?_insertMany_list_of_contains_eq_false,
      Std.ExtTreeMap.getElem?_empty]
    refine Bool.eq_false_iff.mpr fun hmem => ?_
    obtain ⟨entry, hentry, rfl⟩ := List.mem_map.mp (List.contains_iff_mem.mp hmem)
    rw [Std.ExtTreeMap.mem_toList_iff_getElem?_eq_some.mp hentry] at h
    cases h
  | some cell =>
    exact Std.ExtTreeMap.getElem?_insertMany_list_of_mem
      (Std.compare_eq_iff_eq.mpr rfl) Std.ExtTreeMap.distinct_keys_toList
      (Std.ExtTreeMap.mem_toList_iff_getElem?_eq_some.mpr h)

/-- The comment that a file begins with enters nothing. -/
theorem passed_header : Passed "# Cubecell Spreadsheet".toList := by decide

/-- **The text of a writable sheet has the lines that it was put together from.** -/
theorem Writable.lines_toText (h : sheet.Writable) : Text.lines sheet.toText.toList =
    ("# Cubecell Spreadsheet" :: sheet.cellLines Cell.inputText).map String.toList := by
  refine Text.lines_toList_unlines (List.forall_mem_cons.mpr ⟨by decide, ?_⟩)
  rw [h.cellLines]
  intro written hwritten
  obtain ⟨⟨place, cell⟩, hentry, rfl⟩ := List.mem_map.mp hwritten
  obtain ⟨-, -, htrim, hne, hline⟩ := h.of_mem_recorded hentry
  exact ⟨not_mem_line hline, getLast?_line_ne htrim hne⟩

/-- **What is read from the text of a writable sheet is what the file records.** -/
theorem Writable.ofText_toText (h : sheet.Writable) :
    ofText sheet.toText = .ok sheet.recorded := by
  have hentries : ∀ entry ∈ sheet.recorded.toList, entry.1.Named ∧
      entry.2 = .ofInput entry.2.inputText ∧ Text.trim entry.2.inputText = entry.2.inputText ∧
      entry.2.inputText ≠ "" := fun entry hentry => by
    obtain ⟨hnamed, hcell, htrim, hne, -⟩ := h.of_mem_recorded hentry
    exact ⟨hnamed, hcell, htrim, hne⟩
  rw [ofText, h.lines_toText, h.cellLines, List.map_cons,
    readLines_passed passed_header, readLines_map_line _ _ _ hentries, insertMany_toList]

/-! ### Coming back -/

/-- **A sheet comes back from its text**: it is read, with the same inputs in all cells and no
other cells than those with an input. -/
def Reloads (sheet : Sheet) : Prop := ∃ read, ofText sheet.toText = .ok read ∧ ∀ place : CellRef,
  read.inputAt place = sheet.inputAt place ∧ (place ∈ read ↔ sheet.inputAt place ≠ "")

theorem inputAt_recorded (h : sheet.Writable) (place : CellRef) :
    sheet.recorded.inputAt place = sheet.inputAt place := by
  rw [inputAt, Std.ExtTreeMap.getD_eq_getD_getElem?, getElem?_recorded]
  split
  · rename_i hempty
    rw [hempty]
    rfl
  · rw [Option.getD_some, Cell.inputText_ofInput, h.trimmed]

theorem mem_recorded : place ∈ sheet.recorded ↔ sheet.inputAt place ≠ "" := by
  rw [Std.ExtTreeMap.mem_iff_isSome_getElem?, getElem?_recorded]
  split <;> simp_all

/-- An input that was read stands on one line. -/
theorem not_mem_inputAt_of_ofText {content : String} (h : ofText content = .ok read)
    (place : CellRef) : '\n' ∉ (read.inputAt place).toList := by
  cases hcell : read[place]? with
  | none =>
    rw [inputAt, Std.ExtTreeMap.getD_eq_getD_getElem?, hcell]
    decide
  | some cell =>
    rw [inputAt_of_getElem? hcell]
    refine forall_of_ofText (P := fun _ cell => '\n' ∉ cell.inputText.toList)
      (fun line hline place typed henters _ => ?_) h place cell hcell
    rw [Cell.inputText_ofInput, Text.trim, String.toList_ofList]
    exact fun hmem => Text.not_mem_of_mem_lines hline (henters.subset (Text.trimChars_subset hmem))

/-- **A sheet of trimmed inputs comes back exactly when each of them stands on one line.** -/
theorem reloads_iff (hnamed : ∀ place, sheet.inputAt place ≠ "" → place.Named)
    (htrimmed : ∀ place, Text.trim (sheet.inputAt place) = sheet.inputAt place) :
    sheet.Reloads ↔ ∀ place, '\n' ∉ (sheet.inputAt place).toList := by
  constructor
  · rintro ⟨read, hread, hsame⟩ place
    rw [← (hsame place).1]
    exact not_mem_inputAt_of_ofText hread place
  · intro hline
    have h : sheet.Writable := ⟨hnamed, htrimmed, hline⟩
    exact ⟨sheet.recorded, h.ofText_toText, fun place => ⟨inputAt_recorded h place, mem_recorded⟩⟩

end Sheet
end Gridcalc
