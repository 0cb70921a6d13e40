import Gridcalc.Proofs.Address
import Gridcalc.Proofs.Text.Lines
import Gridcalc.Sheet.Text

/-! # Texts that are read as sheets

A line is passed over, or enters a text into a cell, or is refused for one of two reasons, and
which it is can be told from the line alone (`Sheet.passed_or_enters_or_refused`).  So the lines of
a text either have a list of entries (`Sheet.Entries`), and then the sheet is what these entries
leave behind one after the other, or there is a first line that is refused, and then the text is
refused with the number of this line (`Sheet.entries_or_refused`).

The number counts all lines, also those that are passed over.
-/
namespace Gridcalc

/-- The error of a text that is no address shows this text. -/
theorem CellRef.text_of_parse_error {name : String} {error : AddressError}
    (h : parse name = .error error) : error.text = name := by
  simp only [parse] at h
  split at h
  · exact (Except.error.inj h) ▸ rfl
  split at h
  · exact (Except.error.inj h) ▸ rfl
  split at h
  · exact (Except.error.inj h) ▸ rfl
  split at h
  · exact (Except.error.inj h) ▸ rfl
  · cases h

namespace Sheet
variable {line : List Char} {lines before behind : List (List Char)} {name typed message : String}
  {place : CellRef} {fault : LineFault} {entries : List (CellRef × String)} {sheet : Sheet}
  {number : Nat}

/-! ### One line -/

/-- **A line that is passed over**: without the blanks around it nothing is left, or a comment. -/
def Passed (line : List Char) : Prop :=
  Text.trimChars line = [] ∨ (Text.trimChars line).head? = some '#'

/-- **A line that is not passed over, cut at its first colon**: the name in front of the colon,
without blanks around it, and the text behind it. -/
structure Cut (line : List Char) (name typed : String) : Prop where
  counts : ¬ Passed line
  split : ∃ front, Text.trimChars line = front ++ ':' :: typed.toList ∧ ':' ∉ front ∧
    name = Text.trim (String.ofList front)

/-- A line that enters a text into a cell. -/
def Enters (line : List Char) (place : CellRef) (typed : String) : Prop :=
  ∃ name, Cut line name typed ∧ CellRef.parse name = .ok place

/-- A line that can stand in a sheet file. -/
def Accepted (line : List Char) : Prop := Passed line ∨ ∃ place typed, Enters line place typed

/-- **Why a line is refused**, and what is said about it: it has no colon, or what stands in front
of the first one is no address. -/
inductive Refused (line : List Char) : LineFault → String → Prop
  | missingColon : ¬ Passed line → ':' ∉ Text.trimChars line →
      Refused line .missingColon "Expected 'CELLREF: INPUT' format"
  | badAddress {name typed : String} {error : AddressError} : Cut line name typed →
      CellRef.parse name = .error error → Refused line (.badAddress error)
        ("Invalid cell reference " ++ name ++ ": " ++ error.message)

instance : Decidable (Passed line) := inferInstanceAs (Decidable (_ ∨ _))

theorem passed_iff : ((Text.trimChars line).isEmpty ||
    decide ((Text.trimChars line).head? = some '#')) = true ↔ Passed line := by
  rw [Bool.or_eq_true, List.isEmpty_iff, decide_eq_true_eq]
  rfl

theorem readLine_of_passed (h : Passed line) : readLine line = .ok none := by
  simp only [readLine, passed_iff.mpr h, if_true]

/-- A line that is cut at its first colon is read if its address is. -/
theorem readLine_of_cut (h : Cut line name typed) : readLine line =
    ((CellRef.parse name).mapError .badAddress).map fun place =>
      some (place, .ofInput typed) := by
  obtain ⟨hcounts, front, hline, hfront, rfl⟩ := h
  have hpassed := Bool.eq_false_iff.mpr (mt passed_iff.mp hcounts)
  have hcut : Text.cutAt ':' (Text.trimChars line) = some (front, typed.toList) := by
    rw [hline, Text.cutAt_append hfront]
  have hname : String.ofList (Text.trimChars front) = Text.trim (String.ofList front) := by
    rw [Text.trim, String.toList_ofList]
  simp only [readLine, hpassed, hcut, hname, Bool.false_eq_true, if_false, String.ofList_toList]
  cases CellRef.parse (Text.trim (String.ofList front)) <;> rfl

theorem readLine_of_enters (h : Enters line place typed) :
    readLine line = .ok (some (place, .ofInput typed)) := by
  obtain ⟨name, hcut, hparse⟩ := h
  rw [readLine_of_cut hcut, hparse]
  rfl

theorem readLine_of_refused (h : Refused line fault message) : readLine line = .error fault := by
  cases h with
  | missingColon hcounts hcolon =>
    have hpassed := Bool.eq_false_iff.mpr (mt passed_iff.mp hcounts)
    simp only [readLine, hpassed, Text.cutAt_eq_none hcolon, Bool.false_eq_true, if_false]
  | badAddress hcut hparse =>
    rw [readLine_of_cut hcut, hparse]
    rfl

theorem message_of_refused (h : Refused line fault message) : fault.message = message := by
  cases h with
  | missingColon => rfl
  | badAddress _ hparse => rw [← CellRef.text_of_parse_error hparse]; rfl

/-- **A line is passed over, enters a text, or is refused.** -/
theorem passed_or_enters_or_refused (line : List Char) :
    Passed line ∨ (∃ place typed, Enters line place typed) ∨
      ∃ fault message, Refused line fault message := by
  by_cases hpassed : Passed line
  · exact Or.inl hpassed
  refine Or.inr ?_
  cases hcut : Text.cutAt ':' (Text.trimChars line) with
  | none => exact Or.inr ⟨_, _, .missingColon hpassed (Text.not_mem_of_cutAt_eq_none hcut)⟩
  | some parts =>
    obtain ⟨front, typed⟩ := parts
    have hparts : Cut line (Text.trim (String.ofList front)) (String.ofList typed) := by
      refine ⟨hpassed, front, ?_, Text.not_mem_of_cutAt hcut, rfl⟩
      rw [String.toList_ofList]
      exact Text.eq_of_cutAt hcut
    cases hparse : CellRef.parse (Text.trim (String.ofList front)) with
    | ok place => exact Or.inl ⟨place, _, _, hparts, hparse⟩
    | error error => exact Or.inr ⟨_, _, .badAddress hparts hparse⟩

/-- A line enters one text into one cell. -/
theorem Enters.unique {other : CellRef} {text : String} (h : Enters line place typed)
    (hother : Enters line other text) : place = other ∧ typed = text := by
  obtain ⟨_, ⟨-, front, hline, hfront, rfl⟩, hplace⟩ := h
  obtain ⟨_, ⟨-, front', hline', hfront', rfl⟩, hother⟩ := hother
  -- Both are cut at the first colon of the same line.
  have hcut : some (front, typed.toList) = some (front', text.toList) := by
    rw [← Text.cutAt_append hfront, ← hline, hline', Text.cutAt_append hfront']
  obtain ⟨rfl, htyped⟩ := Prod.mk.inj (Option.some.inj hcut)
  exact ⟨Except.ok.inj (hplace.symm.trans hother), String.toList_injective htyped⟩

theorem not_accepted_of_refused (h : Refused line fault message) : ¬ Accepted line := by
  have hread := readLine_of_refused h
  rintro (hpassed | ⟨place, typed, henters⟩)
  · rw [readLine_of_passed hpassed] at hread
    cases hread
  · rw [readLine_of_enters henters] at hread
    cases hread

/-! ### All lines -/

/-- **The entries of some lines**: what the lines that are not passed over enter, in order. -/
inductive Entries : List (List Char) → List (CellRef × String) → Prop
  | nil : Entries [] []
  | passed {line : List Char} {lines : List (List Char)} {entries : List (CellRef × String)} :
      Passed line → Entries lines entries → Entries (line :: lines) entries
  | enters {line : List Char} {place : CellRef} {typed : String} {lines : List (List Char)}
      {entries : List (CellRef × String)} : Enters line place typed → Entries lines entries →
      Entries (line :: lines) ((place, typed) :: entries)

/-- **Lines have these entries and no others.** -/
theorem Entries.unique {others : List (CellRef × String)} (h : Entries lines entries)
    (hothers : Entries lines others) : others = entries := by
  induction h generalizing others with
  | nil =>
    cases hothers with
    | nil => rfl
  | passed hpassed _ ih =>
    cases hothers with
    | passed _ hrest => exact ih hrest
    | enters hline _ =>
      obtain ⟨_, hcut, -⟩ := hline
      exact absurd hpassed hcut.counts
  | enters hline _ ih =>
    cases hothers with
    | passed hpassed _ =>
      obtain ⟨_, hcut, -⟩ := hline
      exact absurd hpassed hcut.counts
    | enters hother hrest =>
      obtain ⟨rfl, rfl⟩ := hline.unique hother
      rw [ih hrest]

/-- The sheet once a line entered a text into a cell.  A line with nothing to enter leaves the cell
as it is. -/
def keep (sheet : Sheet) (entry : CellRef × String) : Sheet :=
  if Cell.ofInput entry.2 = .blank then sheet else sheet.insert entry.1 (.ofInput entry.2)

theorem readLines_passed (h : Passed line) (number : Nat) (sheet : Sheet)
    (rest : List (List Char)) :
    readLines number sheet (line :: rest) = readLines (number + 1) sheet rest := by
  rw [readLines, readLine_of_passed h]

theorem readLines_enters (h : Enters line place typed) (number : Nat) (sheet : Sheet)
    (rest : List (List Char)) :
    readLines number sheet (line :: rest) =
      readLines (number + 1) (sheet.keep (place, typed)) rest := by
  rw [readLines, readLine_of_enters h]
  rfl

/-- **The sheet of lines with entries is what these leave behind.** -/
theorem readLines_of_entries (h : Entries lines entries) (number : Nat) (sheet : Sheet) :
    readLines number sheet lines = .ok (entries.foldl keep sheet) := by
  induction h generalizing number sheet with
  | nil => rfl
  | passed hline _ ih => rw [readLines_passed hline, ih]
  | enters hline _ ih => rw [readLines_enters hline, ih, List.foldl_cons]

/-- **The first line that is refused is reported,** with its number among all lines. -/
theorem readLines_of_refused (hbefore : Entries before entries) (h : Refused line fault message)
    (number : Nat) (sheet : Sheet) :
    readLines number sheet (before ++ line :: behind) =
      .error ⟨number + before.length, fault⟩ := by
  induction hbefore generalizing number sheet with
  | nil =>
    rw [List.nil_append, readLines, readLine_of_refused h]
    rfl
  | passed hline _ ih =>
    rw [List.cons_append, readLines_passed hline, ih, List.length_cons, Nat.add_right_comm,
      Nat.add_assoc]
  | enters hline _ ih =>
    rw [List.cons_append, readLines_enters hline, ih, List.length_cons, Nat.add_right_comm,
      Nat.add_assoc]

/-- **Lines have entries, or there is a first line that is refused.** -/
theorem entries_or_refused : ∀ lines : List (List Char), (∃ entries, Entries lines entries) ∨
    ∃ before line behind entries fault message, lines = before ++ line :: behind ∧
      Entries before entries ∧ Refused line fault message
  | [] => Or.inl ⟨[], .nil⟩
  | line :: rest => by
    obtain hpassed | ⟨place, typed, henters⟩ | ⟨fault, message, hrefused⟩ :=
      passed_or_enters_or_refused line
    · obtain ⟨entries, h⟩ | ⟨before, first, behind, entries, fault, message, rfl, h, hfirst⟩ :=
        entries_or_refused rest
      · exact Or.inl ⟨entries, .passed hpassed h⟩
      · exact Or.inr ⟨line :: before, first, behind, entries, fault, message, rfl,
          .passed hpassed h, hfirst⟩
    · obtain ⟨entries, h⟩ | ⟨before, first, behind, entries, fault, message, rfl, h, hfirst⟩ :=
        entries_or_refused rest
      · exact Or.inl ⟨_, .enters henters h⟩
      · exact Or.inr ⟨line :: before, first, behind, _, fault, message, rfl,
          .enters henters h, hfirst⟩
    · exact Or.inr ⟨[], line, rest, [], fault, message, rfl, .nil, hrefused⟩

/-- An entry stands on a line that enters it. -/
theorem Entries.exists_of_mem (h : Entries lines entries) {entry : CellRef × String}
    (hmem : entry ∈ entries) : ∃ line ∈ lines, Enters line entry.1 entry.2 := by
  induction h with
  | nil => cases hmem
  | passed _ _ ih =>
    obtain ⟨found, hfound, henters⟩ := ih hmem
    exact ⟨found, List.mem_cons_of_mem _ hfound, henters⟩
  | enters hline _ ih =>
    rcases List.mem_cons.mp hmem with rfl | hrest
    · exact ⟨_, List.mem_cons_self, hline⟩
    · obtain ⟨found, hfound, henters⟩ := ih hrest
      exact ⟨found, List.mem_cons_of_mem _ hfound, henters⟩

theorem exists_entries_iff :
    (∃ entries, Entries lines entries) ↔ ∀ line ∈ lines, Accepted line := by
  constructor
  · rintro ⟨entries, h⟩
    induction h with
    | nil => exact nofun
    | passed hline _ ih => exact List.forall_mem_cons.mpr ⟨Or.inl hline, ih⟩
    | enters hline _ ih => exact List.forall_mem_cons.mpr ⟨Or.inr ⟨_, _, hline⟩, ih⟩
  · intro h
    obtain hentries | ⟨before, line, behind, _, fault, message, rfl, -, hrefused⟩ :=
      entries_or_refused lines
    · exact hentries
    · exact absurd (h line (by simp)) (not_accepted_of_refused hrefused)

/-! ### Texts -/

/-- **A text is read as the sheet that its entries leave behind, or refused for its first line that
is.** -/
theorem ofText_cases (content : String) :
    (∃ entries, Entries (Text.lines content.toList) entries ∧
      ofText content = .ok (entries.foldl keep ∅)) ∨
    ∃ before line behind entries fault message,
      Text.lines content.toList = before ++ line :: behind ∧ Entries before entries ∧
      Refused line fault message ∧ ofText content = .error ⟨before.length + 1, fault⟩ := by
  obtain ⟨entries, h⟩ | ⟨before, line, behind, entries, fault, message, hlines, h, hrefused⟩ :=
    entries_or_refused (Text.lines content.toList)
  · exact Or.inl ⟨entries, h, readLines_of_entries h 1 ∅⟩
  · refine Or.inr ⟨before, line, behind, entries, fault, message, hlines, h, hrefused, ?_⟩
    rw [ofText, hlines, readLines_of_refused h hrefused, Nat.add_comm]

theorem exists_entries_of_ofText {content : String} (h : ofText content = .ok sheet) :
    ∃ entries, Entries (Text.lines content.toList) entries ∧ sheet = entries.foldl keep ∅ := by
  obtain ⟨entries, hentries, hread⟩ | ⟨_, _, _, _, _, _, -, -, -, hread⟩ := ofText_cases content
  · exact ⟨entries, hentries, Except.ok.inj (h.symm.trans hread)⟩
  · cases h.symm.trans hread

/-- **A text is accepted line by line.**  It is read as a sheet exactly when each of its lines is
accepted.  Otherwise the error tells the number of the first line that is not, counted from one over
all lines, and why this line is refused. -/
theorem ofText_line_by_line (content : String) :
    ∃ lines, (∀ others, Text.Lined content.toList others ↔ others = lines) ∧
      ((∃ sheet, ofText content = .ok sheet) ↔ ∀ line ∈ lines, Accepted line) ∧
      ∀ error, ofText content = .error error ↔ ∃ before line behind,
        lines = before ++ line :: behind ∧ (∀ earlier ∈ before, Accepted earlier) ∧
        Refused line error.fault error.fault.message ∧ error.line = before.length + 1 := by
  refine ⟨Text.lines content.toList, fun _ => Text.lined_iff, ?_, fun error => ⟨?_, ?_⟩⟩
  · rw [← exists_entries_iff]
    refine ⟨?_, ?_⟩
    · rintro ⟨sheet, hsheet⟩
      obtain ⟨entries, hentries, -⟩ := exists_entries_of_ofText hsheet
      exact ⟨entries, hentries⟩
    · rintro ⟨entries, hentries⟩
      exact ⟨_, readLines_of_entries hentries 1 ∅⟩
  · intro herror
    obtain ⟨_, -, hread⟩ | ⟨before, line, behind, _, fault, message, hlines, h, hrefused, hread⟩ :=
      ofText_cases content
    · cases herror.symm.trans hread
    · obtain rfl := Except.error.inj (herror.symm.trans hread)
      refine ⟨before, line, behind, hlines, exists_entries_iff.mp ⟨_, h⟩, ?_, rfl⟩
      rw [message_of_refused hrefused]
      exact hrefused
  · rintro ⟨before, line, behind, hlines, hbefore, hrefused, hnumber⟩
    obtain ⟨entries, h⟩ := exists_entries_iff.mpr hbefore
    rw [ofText, hlines, readLines_of_refused h hrefused, Nat.add_comm, ← hnumber]

end Sheet
end Gridcalc
