import Gridcalc.Proofs.Document.Intact

/-! # Reading a text and typing it in

The entries of a text can be read as a sheet or typed into an empty document one after the other.
Both put one text after the other into its cell, so each cell ends up with the text that came last
for it (`inputAt_of_entered`, `Document.inputAt_replayed`).  The difference is in the entries with
nothing to enter: typed in, they empty their cell, but when a text is read they are left out
(`Sheet.inputAt_of_entries`).

So the two agree in a cell exactly when the last entry for it enters something, or none of them does
(`Document.reading_agrees_iff`).
-/
namespace Gridcalc

theorem Cell.ofInput_eq_blank_iff {typed : String} :
    ofInput typed = .blank ↔ Text.trim typed = "" := by
  refine ⟨fun h => ?_, fun h => by rw [ofInput, h]; rfl⟩
  rw [← inputText_ofInput, h]
  rfl

namespace Sheet
variable {entries : List (CellRef × String)} {place : CellRef} {sheet : Sheet}

/-! ### The last entry for a cell -/

/-- What came last for a cell, nothing for a cell without an entry. -/
def lastEntry (entries : List (CellRef × String)) (place : CellRef) : String :=
  ((entries.filter (·.1 = place)).getLast?.map Prod.snd).getD ""

/-- The entries that enter something. -/
def filled (entries : List (CellRef × String)) : List (CellRef × String) :=
  entries.filter (Text.trim ·.2 ≠ "")

theorem lastEntry_concat (entries : List (CellRef × String)) (entry : CellRef × String) :
    lastEntry (entries ++ [entry]) = Function.update (lastEntry entries) entry.1 entry.2 := by
  funext place
  by_cases h : place = entry.1
  · subst h
    simp [lastEntry]
  · rw [Function.update_of_ne h]
    simp [lastEntry, Ne.symm h]

theorem mem_of_lastEntry (entries : List (CellRef × String)) (place : CellRef) :
    (place, lastEntry entries place) ∈ entries ∨
      lastEntry entries place = "" ∧ ∀ typed, (place, typed) ∉ entries := by
  cases h : (entries.filter (·.1 = place)).getLast? with
  | none =>
    refine Or.inr ⟨by rw [lastEntry, h]; rfl, fun typed hmem => ?_⟩
    have hnil := List.getLast?_eq_none_iff.mp h
    simpa using List.filter_eq_nil_iff.mp hnil _ hmem
  | some entry =>
    obtain ⟨hmem, hplace⟩ := List.mem_filter.mp (List.mem_of_getLast? h)
    have hlast : lastEntry entries place = entry.2 := by rw [lastEntry, h]; rfl
    rw [hlast, ← of_decide_eq_true hplace]
    exact Or.inl hmem

/-- **A fold of entries, each of which puts its text into its cell, leaves the last text for each
cell.** -/
theorem inputAt_of_entered {State : Type} (inputAt : State → CellRef → String)
    {enter : State → CellRef × String → State} {start : State}
    (henter : ∀ state entry,
      inputAt (enter state entry) = Function.update (inputAt state) entry.1 (Text.trim entry.2))
    (hstart : inputAt start = fun _ => "") (entries : List (CellRef × String)) :
    inputAt (entries.foldl enter start) = Text.trim ∘ lastEntry entries := by
  -- The last entry for a cell is told from the end of the list, so the induction is from there.
  induction entries using List.reverseRecOn with
  | nil => exact hstart
  | append_singleton entries entry ih =>
    rw [List.foldl_concat, henter, ih, lastEntry_concat, Function.comp_update]

/-! ### Entries with nothing to enter -/

theorem foldl_keep (entries : List (CellRef × String)) (sheet : Sheet) :
    entries.foldl keep sheet = (filled entries).foldl
      (fun sheet entry => sheet.insert entry.1 (.ofInput entry.2)) sheet := by
  rw [filled, List.foldl_filter]
  congr 1
  funext sheet entry
  simp only [keep, Cell.ofInput_eq_blank_iff, decide_not, Bool.not_eq_true',
    decide_eq_false_iff_not, ite_not]

/-- **A cell of a sheet that was read holds the last text that was entered into it,** where entries
with nothing to enter do not count. -/
theorem inputAt_of_entries (entries : List (CellRef × String)) :
    (entries.foldl keep ∅).inputAt = Text.trim ∘ lastEntry (filled entries) := by
  rw [foldl_keep]
  refine inputAt_of_entered inputAt (fun sheet entry => ?_) inputAt_empty (filled entries)
  rw [inputAt_insert, Cell.inputText_ofInput]

/-- Nothing was entered into a cell when all of its entries are empty. -/
theorem trim_lastEntry_filled_eq_empty : Text.trim (lastEntry (filled entries) place) = "" ↔
    ∀ typed, (place, typed) ∈ entries → Text.trim typed = "" := by
  obtain hmem | ⟨hnone, hnot⟩ := mem_of_lastEntry (filled entries) place
  · obtain ⟨hentry, hfilled⟩ := List.mem_filter.mp hmem
    have hne := of_decide_eq_true hfilled
    exact ⟨fun h => absurd h hne, fun h => absurd (h _ hentry) hne⟩
  · rw [hnone]
    refine ⟨fun _ typed hentry => ?_, fun _ => by decide⟩
    by_contra hne
    exact hnot typed (List.mem_filter.mpr ⟨hentry, decide_eq_true hne⟩)

/-- An entry that enters something is the last one also among those that do. -/
theorem lastEntry_filled (h : Text.trim (lastEntry entries place) ≠ "") :
    lastEntry (filled entries) place = lastEntry entries place := by
  induction entries using List.reverseRecOn with
  | nil => rfl
  | append_singleton entries entry ih =>
    have hfilled : filled (entries ++ [entry]) =
        filled entries ++ if Text.trim entry.2 ≠ "" then [entry] else [] := by
      simp [filled, List.filter_singleton]
    rw [lastEntry_concat] at h ⊢
    rw [hfilled]
    by_cases hplace : place = entry.1
    · -- It is the last entry of its cell, and it is kept since it enters something.
      subst hplace
      rw [Function.update_self] at h ⊢
      rw [if_pos h, lastEntry_concat, Function.update_self]
    · rw [Function.update_of_ne hplace] at h ⊢
      split
      · rw [lastEntry_concat, Function.update_of_ne hplace, ih h]
      · rw [List.append_nil, ih h]

/-- **The last text that was entered is the last entry** exactly when that enters something, or no
entry for the cell does. -/
theorem trim_lastEntry_filled_eq_iff :
    Text.trim (lastEntry (filled entries) place) = Text.trim (lastEntry entries place) ↔
      Text.trim (lastEntry entries place) ≠ "" ∨
        ∀ typed, (place, typed) ∈ entries → Text.trim typed = "" := by
  by_cases h : Text.trim (lastEntry entries place) = ""
  · rw [h, trim_lastEntry_filled_eq_empty]
    simp
  · exact ⟨fun _ => Or.inl h, fun _ => by rw [lastEntry_filled h]⟩

end Sheet

namespace Document
variable {sheet : Sheet} {content : String}

/-- The document into which entries were typed, in order. -/
def replayed (limits : Limits) (entries : List (CellRef × String)) : Document :=
  (fresh limits).operated (entries.map fun entry => .enter entry.1 entry.2)

/-- **A cell of a document into which entries were typed holds the last of them.** -/
theorem inputAt_replayed (limits : Limits) (entries : List (CellRef × String)) :
    (replayed limits entries).sheet.inputAt = Text.trim ∘ Sheet.lastEntry entries := by
  rw [replayed, operated, List.foldl_map]
  exact Sheet.inputAt_of_entered (fun document : Document => document.sheet.inputAt)
    (fun document entry => inputAt_enter document entry.1 entry.2) Sheet.inputAt_empty entries

/-- **Reading a text agrees with typing its entries in,** in those cells whose last entry enters
something and in those for which no entry does.  A cell whose last entry enters nothing keeps what
was entered before, while typing empties it. -/
theorem reading_agrees_iff (h : Sheet.ofText content = .ok sheet) :
    ∃ lines entries, (∀ others, Text.Lined content.toList others ↔ others = lines) ∧
      (∀ others, Sheet.Entries lines others ↔ others = entries) ∧
      ∀ (limits : Limits) (place : CellRef),
        (replayed limits entries).sheet.inputAt place =
            Text.trim (Sheet.lastEntry entries place) ∧
          sheet.inputAt place = Text.trim (Sheet.lastEntry (Sheet.filled entries) place) ∧
          (sheet.inputAt place = (replayed limits entries).sheet.inputAt place ↔
            Text.trim (Sheet.lastEntry entries place) ≠ "" ∨
              ∀ typed, (place, typed) ∈ entries → Text.trim typed = "") := by
  obtain ⟨entries, hentries, rfl⟩ := Sheet.exists_entries_of_ofText h
  refine ⟨_, entries, fun _ => Text.lined_iff,
    fun others => ⟨hentries.unique, fun he => he ▸ hentries⟩, fun limits place => ?_⟩
  have hreplayed := congrFun (inputAt_replayed limits entries) place
  have hread := congrFun (Sheet.inputAt_of_entries entries) place
  refine ⟨hreplayed, hread, ?_⟩
  rw [hreplayed, hread]
  exact Sheet.trim_lastEntry_filled_eq_iff

/-- Two cells in several spellings.  The last entry for `B1` is empty, and so is the only one for
`C1`. -/
def respelled : String := "b01: x\nA1: =B1\r\n# B1: z\n\nB1:\na001:7\nC1: "

/-- The entries of its lines. -/
def respelledEntries : List (CellRef × String) :=
  [(⟨0, 1⟩, " x"), (⟨0, 0⟩, " =B1"), (⟨0, 1⟩, ""), (⟨0, 0⟩, "7"), (⟨0, 2⟩, "")]

theorem entries_respelled :
    Sheet.Entries (Text.lines respelled.toList) respelledEntries := by
  have hlines : Text.lines respelled.toList = ["b01: x".toList, "A1: =B1".toList,
      "# B1: z".toList, [], "B1:".toList, "a001:7".toList, "C1: ".toList] := by decide +kernel
  rw [hlines]
  refine .enters ⟨"b01", ⟨by decide, "b01".toList, by decide, by decide, by decide⟩, ?_⟩ <|
    .enters ⟨"A1", ⟨by decide, "A1".toList, by decide, by decide, by decide⟩, ?_⟩ <|
    .passed (by decide) <| .passed (by decide) <|
    .enters ⟨"B1", ⟨by decide, "B1".toList, by decide, by decide, by decide⟩, ?_⟩ <|
    .enters ⟨"a001", ⟨by decide, "a001".toList, by decide, by decide, by decide⟩, ?_⟩ <|
    .enters ⟨"C1", ⟨by decide, "C1".toList, by decide, by decide, by decide⟩, ?_⟩ .nil
  all_goals decide +kernel

/-- Reading and typing agree in `A1` and in `C1`, but not in `B1`. -/
theorem respelled_agrees : ∃ sheet, Sheet.ofText respelled = .ok sheet ∧
    sheet.inputAt ⟨0, 0⟩ = (replayed {} respelledEntries).sheet.inputAt ⟨0, 0⟩ ∧
    sheet.inputAt ⟨0, 1⟩ ≠ (replayed {} respelledEntries).sheet.inputAt ⟨0, 1⟩ ∧
    sheet.inputAt ⟨0, 2⟩ = (replayed {} respelledEntries).sheet.inputAt ⟨0, 2⟩ := by
  have hread := Sheet.readLines_of_entries entries_respelled 1 ∅
  obtain ⟨_, entries, hlines, hentries, hagrees⟩ := reading_agrees_iff hread
  obtain rfl := (hlines _).mp (Text.lined_lines _)
  obtain rfl := (hentries _).mp entries_respelled
  have hfilled : Text.trim (Sheet.lastEntry respelledEntries ⟨0, 0⟩) ≠ "" := by decide
  have hempty : ¬ (Text.trim (Sheet.lastEntry respelledEntries ⟨0, 1⟩) ≠ "" ∨
      ∀ typed, (⟨0, 1⟩, typed) ∈ respelledEntries → Text.trim typed = "") := by
    rintro (h | h)
    · exact h (by decide)
    · exact absurd (h " x" (by decide)) (by decide)
  have hnone : ∀ typed, (⟨0, 2⟩, typed) ∈ respelledEntries → Text.trim typed = "" := by
    intro typed hmem
    have htyped : typed = "" := by simpa [respelledEntries] using hmem
    rw [htyped]
    decide
  exact ⟨_, hread, (hagrees {} _).2.2.mpr (Or.inl hfilled),
    mt (hagrees {} _).2.2.mp hempty, (hagrees {} _).2.2.mpr (Or.inr hnone)⟩

/-- A cell that is filled and emptied again. -/
def emptiedAgain : String := "A1: 5\nA1:"

/-- The entries of its lines. -/
def emptiedAgainEntries : List (CellRef × String) := [(⟨0, 0⟩, " 5"), (⟨0, 0⟩, "")]

theorem entries_emptiedAgain :
    Sheet.Entries (Text.lines emptiedAgain.toList) emptiedAgainEntries := by
  have hlines : Text.lines emptiedAgain.toList = ["A1: 5".toList, "A1:".toList] := by
    decide +kernel
  rw [hlines]
  refine .enters ⟨"A1", ⟨by decide, "A1".toList, by decide, by decide, by decide⟩, ?_⟩ <|
    .enters ⟨"A1", ⟨by decide, "A1".toList, by decide, by decide, by decide⟩, ?_⟩ .nil
  all_goals decide +kernel

/-- **Reading a text does not empty a cell.**  The second line leaves what the first one entered, so
not every text is read as it is typed in. -/
theorem emptiedAgain_keeps : (∃ sheet, Sheet.ofText emptiedAgain = .ok sheet ∧
      Sheet.Entries (Text.lines emptiedAgain.toList) emptiedAgainEntries ∧
      sheet.inputAt ⟨0, 0⟩ = "5" ∧
      (replayed {} emptiedAgainEntries).sheet.inputAt ⟨0, 0⟩ = "") ∧
    ¬ ∀ (content : String) (sheet : Sheet) (entries : List (CellRef × String)),
      Sheet.ofText content = .ok sheet → Sheet.Entries (Text.lines content.toList) entries →
      ∀ (limits : Limits) (place : CellRef),
        sheet.inputAt place = (replayed limits entries).sheet.inputAt place := by
  have hread := Sheet.readLines_of_entries entries_emptiedAgain 1 ∅
  have hkept := congrFun (Sheet.inputAt_of_entries emptiedAgainEntries) ⟨0, 0⟩
  have hemptied := congrFun (inputAt_replayed {} emptiedAgainEntries) ⟨0, 0⟩
  have hfive : Text.trim (Sheet.lastEntry (Sheet.filled emptiedAgainEntries) ⟨0, 0⟩) = "5" := by
    decide
  have hnothing : Text.trim (Sheet.lastEntry emptiedAgainEntries ⟨0, 0⟩) = "" := by decide
  refine ⟨⟨_, hread, entries_emptiedAgain, hkept.trans hfive, hemptied.trans hnothing⟩,
    fun hall => ?_⟩
  have hsame := hall _ _ _ hread entries_emptiedAgain {} ⟨0, 0⟩
  rw [hkept.trans hfive, hemptied.trans hnothing] at hsame
  exact absurd hsame (by decide)

end Document
end Gridcalc
