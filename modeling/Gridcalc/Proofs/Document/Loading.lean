import Gridcalc.Document.Storage
import Gridcalc.Proofs.Document.Consistent

/-! # Loading is all or nothing

A file is refused for one of four reasons, all of them found before the document changes
(`Document.Unreadable`).  What is calculated afterwards starts from an empty graph, whatever the
document was.  Such a graph stays without cycles while references are taken in, so there is an
order of calculation and nothing can fail any more (`Document.calculateAll_emptied`).

So a load either is refused and changes nothing, or leaves a sheet and a graph that the bytes of
the file and the limits determine (`Document.load_all_or_nothing`).
-/
namespace Gridcalc.Document
variable {document : Document} {files : Files} {path : String} {sheet : Sheet}
  {error : DocumentError}

/-! ### Reading -/

/-- **Why a file is refused**: it is not there, it is too large, its bytes are no text, or a line
of it is not a cell. -/
inductive Unreadable (files : Files) (path : String) : DocumentError → Prop
  | missing {fault : FileFault} : files.bytes path = .error fault →
      Unreadable files path (.file path fault)
  | tooLarge {bytes : ByteArray} : files.bytes path = .ok bytes → maxSheetBytes < bytes.size →
      Unreadable files path (.file path (.tooLarge bytes.size maxSheetBytes))
  | notText {bytes : ByteArray} : files.bytes path = .ok bytes → bytes.size ≤ maxSheetBytes →
      String.fromUTF8? bytes = none → Unreadable files path (.file path .notText)
  | line {bytes : ByteArray} {content : String} {fault : LineError} :
      files.bytes path = .ok bytes → bytes.size ≤ maxSheetBytes →
      String.fromUTF8? bytes = some content → Sheet.ofText content = .error fault →
      Unreadable files path (.line fault)

/-- **What a file has to hold for a sheet to be read.** -/
def Holding (files : Files) (path : String) (sheet : Sheet) : Prop :=
  ∃ bytes content, files.bytes path = .ok bytes ∧ bytes.size ≤ maxSheetBytes ∧
    String.fromUTF8? bytes = some content ∧ Sheet.ofText content = .ok sheet

theorem readSheet_of_unreadable (h : Unreadable files path error) :
    readSheet files path = .error error := by
  cases h with
  | missing hbytes => simp [readSheet, Files.readText, hbytes, bind, Except.bind, Except.mapError]
  | tooLarge hbytes hsize =>
    simp [readSheet, Files.readText, hbytes, hsize, bind, Except.bind, Except.mapError]
  | notText hbytes hsize htext =>
    simp [readSheet, Files.readText, hbytes, Nat.not_lt.mpr hsize, htext, bind, Except.bind,
      Except.mapError]
  | line hbytes hsize htext hline =>
    simp [readSheet, Files.readText, hbytes, Nat.not_lt.mpr hsize, htext, hline, bind, Except.bind,
      Except.mapError]

theorem readSheet_of_holding (h : Holding files path sheet) :
    readSheet files path = .ok sheet := by
  obtain ⟨bytes, content, hbytes, hsize, htext, hsheet⟩ := h
  simp [readSheet, Files.readText, hbytes, Nat.not_lt.mpr hsize, htext, hsheet, bind, Except.bind,
    Except.mapError]

/-- **A file is refused for one of these reasons or holds a sheet.** -/
theorem unreadable_or_holding (files : Files) (path : String) :
    (∃ error, Unreadable files path error) ∨ ∃ sheet, Holding files path sheet := by
  cases hbytes : files.bytes path with
  | error fault => exact Or.inl ⟨_, .missing hbytes⟩
  | ok bytes =>
    rcases Nat.lt_or_ge maxSheetBytes bytes.size with hsize | hsize
    · exact Or.inl ⟨_, .tooLarge hbytes hsize⟩
    cases htext : String.fromUTF8? bytes with
    | none => exact Or.inl ⟨_, .notText hbytes hsize htext⟩
    | some content =>
      cases hsheet : Sheet.ofText content with
      | error fault => exact Or.inl ⟨_, .line hbytes hsize htext hsheet⟩
      | ok sheet => exact Or.inr ⟨sheet, bytes, content, hbytes, hsize, htext, hsheet⟩

theorem readSheet_eq_error_iff : readSheet files path = .error error ↔
    Unreadable files path error := by
  refine ⟨fun h => ?_, readSheet_of_unreadable⟩
  obtain ⟨found, hfound⟩ | ⟨sheet, hsheet⟩ := unreadable_or_holding files path
  · obtain rfl := Except.error.inj (h.symm.trans (readSheet_of_unreadable hfound))
    exact hfound
  · rw [readSheet_of_holding hsheet] at h
    cases h

/-! ### Calculating what was read -/

/-- The document that a sheet is loaded into, with its formulas not yet calculated. -/
def emptied (document : Document) (sheet : Sheet) : Document :=
  { document with sheet, graph := ∅ }

theorem exists_calculated_emptied (document : Document) (sheet : Sheet) :
    ∃ after, (document.emptied sheet).toGrid.calculateAll = (.ok after.tally, after) ∧
      (document.emptied sheet).toGrid.Calculated after :=
  Grid.exists_calculated DependencyGraph.coherent_empty DependencyGraph.acyclic_empty

/-- **From an empty graph the calculation of a sheet cannot fail,** whatever the sheet is. -/
theorem calculateAll_emptied (document : Document) (sheet : Sheet) :
    ∃ after : Document, (document.emptied sheet).calculateAll = (.ok after.tally, after) := by
  obtain ⟨after, hafter, -⟩ := exists_calculated_emptied document sheet
  exact ⟨(document.emptied sheet).withGrid after, by simp only [calculateAll, onGrid, hafter]; rfl⟩

/-- The document after the sheet of a file was loaded. -/
def loaded (document : Document) (path : String) (sheet : Sheet) : Document :=
  { (document.emptied sheet).calculateAll.2 with path := some path, modified := false }

theorem load_of_unreadable (h : Unreadable files path error) :
    document.load files path = (.error error, document) := by
  simp only [load, readSheet_of_unreadable h]

/-- **A file that holds a sheet is loaded.** -/
theorem load_of_holding (h : Holding files path sheet) :
    document.load files path = (.ok (document.loaded path sheet).tally,
      document.loaded path sheet) := by
  obtain ⟨after, hafter⟩ := calculateAll_emptied document sheet
  have hcalculate : calculateAll { document with sheet, graph := ∅ } = (.ok after.tally, after) :=
    hafter
  simp only [load, readSheet_of_holding h, hcalculate, loaded, hafter]

/-- What is loaded does not depend on the document, except for its limits. -/
theorem toGrid_loaded {other : Document} (h : other.limits = document.limits) (path' : String) :
    (other.loaded path' sheet).toGrid = (document.loaded path sheet).toGrid := by
  have hgrid : (other.emptied sheet).toGrid = (document.emptied sheet).toGrid := by
    simp only [emptied, h]
  show (other.emptied sheet).toGrid.calculateAll.2 = (document.emptied sheet).toGrid.calculateAll.2
  rw [hgrid]

/-- What is loaded was calculated from the sheet of the file, without arrows. -/
theorem calculated_loaded : Grid.Calculated { document.toGrid with sheet, graph := ∅ }
    (document.loaded path sheet).toGrid := by
  obtain ⟨after, hafter, h⟩ := exists_calculated_emptied document sheet
  show (document.emptied sheet).toGrid.Calculated (document.emptied sheet).toGrid.calculateAll.2
  rw [hafter]
  exact h

/-- **A load is all or nothing,** whatever the document is.  It fails exactly when the file is
refused, and then the document is the one it was.  Otherwise the document belongs to the file and
counts as unchanged, and any other document with the same limits that loads the same bytes
gives the same answer, sheet and graph.  For what is calculated once the cells have been replaced
cannot fail. -/
theorem load_all_or_nothing (document : Document) (files : Files) (path : String) :
    (∀ error, (document.load files path).1 = .error error ↔ Unreadable files path error) ∧
    (∀ error, (document.load files path).1 = .error error →
      (document.load files path).2 = document) ∧
    (∀ summary, (document.load files path).1 = .ok summary →
      (document.load files path).2.path = some path ∧
      (document.load files path).2.modified = false ∧
      (document.load files path).2.limits = document.limits ∧
      ∀ (other : Document) (files' : Files) (path' : String), other.limits = document.limits →
        files'.bytes path' = files.bytes path →
        (other.load files' path').1 = .ok summary ∧
          (other.load files' path').2.toGrid = (document.load files path).2.toGrid) ∧
    ∀ sheet, ∃ summary after, (document.emptied sheet).calculateAll = (.ok summary, after) := by
  have hcalculate : ∀ sheet, ∃ summary after,
      (document.emptied sheet).calculateAll = (.ok summary, after) := fun sheet =>
    (calculateAll_emptied document sheet).elim fun after hafter => ⟨_, after, hafter⟩
  obtain ⟨found, hfound⟩ | ⟨sheet, hsheet⟩ := unreadable_or_holding files path
  · rw [load_of_unreadable hfound]
    refine ⟨fun error => ?_, fun _ _ => rfl, nofun, hcalculate⟩
    rw [← readSheet_eq_error_iff, readSheet_of_unreadable hfound]
    simp only [Except.error.injEq]
  · rw [load_of_holding hsheet]
    refine ⟨fun error => ?_, nofun, fun summary hok => ?_, hcalculate⟩
    · rw [← readSheet_eq_error_iff, readSheet_of_holding hsheet]
      exact ⟨nofun, nofun⟩
    · refine ⟨rfl, rfl, calculated_loaded.limits, fun other files' path' hlimits hbytes => ?_⟩
      -- The same bytes hold the same sheet, and nothing else of the other document is used.
      have hother : Holding files' path' sheet := by
        obtain ⟨bytes, content, hfound, hrest⟩ := hsheet
        exact ⟨bytes, content, hbytes.trans hfound, hrest⟩
      have hgrid : (other.loaded path' sheet).toGrid = (document.loaded path sheet).toGrid :=
        toGrid_loaded hlimits path'
      rw [load_of_holding hother, hgrid]
      exact ⟨hok, rfl⟩

/-- Two cells that read each other, which no edits lead to. -/
def tied : Document := { graph := .ofEdges [("A1", "B1"), ("B1", "A1")], modified := true }

/-- A sheet file, and a file that breaks off after its first cell. -/
def folder : Files :=
  ((∅ : Files).put "sheet.txt" "A1: 4
A2: =A1*3
".toUTF8).put "broken.txt" "A1: 4
A2
".toUTF8

set_option maxRecDepth 100000 in
theorem tied_load :
    (tied.load folder "broken.txt").1 = .error (.line ⟨2, .missingColon⟩) ∧
      (tied.load folder "broken.txt").2 = tied ∧
      (tied.load folder "sheet.txt").1 = .ok { computed := 1 } ∧
      ((fresh {}).load folder "./sheet.txt").2.toGrid =
        (tied.load folder "sheet.txt").2.toGrid := by
  have hbroken : (tied.load folder "broken.txt").1 = .error (.line ⟨2, .missingColon⟩) := by
    decide +kernel
  have hsheet : (tied.load folder "sheet.txt").1 = .ok { computed := 1 } := by decide +kernel
  have hbytes : folder.bytes "./sheet.txt" = folder.bytes "sheet.txt" := by decide +kernel
  obtain ⟨-, hkept, -, -⟩ := load_all_or_nothing tied folder "broken.txt"
  obtain ⟨-, -, hloaded, -⟩ := load_all_or_nothing tied folder "sheet.txt"
  obtain ⟨-, -, -, hsame⟩ := hloaded _ hsheet
  exact ⟨hbroken, hkept _ hbroken, hsheet, (hsame (fresh {}) folder "./sheet.txt" rfl hbytes).2⟩

end Gridcalc.Document
