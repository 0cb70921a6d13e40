import Gridcalc.CommandLine.Perform
import Gridcalc.Proofs.Document.Intact

/-! # The outcome of a run

A run has four stages: it loads the sheet, makes the edits, answers a formula, and writes the
values.  The first two can stop it, and for two reasons only: the file is refused, or an edit names
no cell (`CommandLine.Stopped`).  An edit that names a cell goes through, since the document is
sound at that point; at most it is warned about.

A run that is not stopped ends with the document that all edits lead to.  What it prints and writes
and its exit code are told from that (`CommandLine.Answered`): the value of a formula is what the
formula evaluates to under the limits of the document and against the values that its cells hold.
All of this holds whatever the libraries of a run make of its configuration and of its log filter
(`CommandLine.run_outcome`).
-/
namespace Gridcalc

/-! ### Files that were written -/

namespace Files
variable {files after : Files} {path text : String} {place : Place}

theorem hasFolder_of_folders_eq (hfolders : after.folders = files.folders) (place : Place) :
    after.hasFolder place = files.hasFolder place := by
  rw [hasFolder, hasFolder, hfolders]

/-- Steps that lead through folders do so whatever files there are. -/
theorem enter_of_folders_eq (hfolders : after.folders = files.folders) :
    ∀ (names : List String) (start : Place), files.enter start names = .ok place →
      after.enter start names = .ok place
  | [], _, h => h
  | name :: rest, start, h => by
    rw [enter] at h ⊢
    simp only [hasFolder_of_folders_eq hfolders]
    split at h
    · cases h
    rename_i hlength
    rw [if_neg hlength]
    split at h
    · rename_i hnext
      rw [if_pos hnext]
      exact enter_of_folders_eq hfolders rest _ h
    · split at h <;> cases h

/-- Where a path leads does not depend on what the files are. -/
theorem locate_of_folders_eq (h : files.locate path = .ok place)
    (hfolders : after.folders = files.folders) : after.locate path = .ok place := by
  unfold locate at h ⊢
  split at h
  · cases h
  rename_i hnull
  rw [if_neg hnull]
  split at h
  · cases h
  rename_i hempty
  rw [if_neg hempty]
  split at h
  · cases h
  rename_i hlength
  rw [if_neg hlength]
  simp only [bind, Except.bind] at h ⊢
  -- The folders of the path are entered first, then its name is looked for in the last one.
  cases hfolder :
      files.enter (.origin (Path.ofString path).rooted) (Path.ofString path).folders with
  | error fault =>
    rw [hfolder] at h
    cases h
  | ok folder =>
    rw [hfolder] at h
    rw [enter_of_folders_eq hfolders _ _ hfolder]
    simp only [hasFolder_of_folders_eq hfolders]
    exact h

/-- **A file that was written holds the text.** -/
theorem bytes_write (h : files.write path text = .ok after) :
    after.bytes path = .ok text.toUTF8 := by
  unfold write at h
  cases hplace : files.locate path with
  | error fault =>
    rw [hplace] at h
    cases h
  | ok place =>
    rw [hplace] at h
    obtain rfl := Except.ok.inj h
    -- A file was put at the place, so the path still leads there.
    have hlocate : Files.locate { files with
        contents := files.contents.insert place.spelling text.toUTF8 } path = .ok place :=
      locate_of_folders_eq hplace rfl
    rw [bytes, hlocate]
    simp only [bind, Except.bind, Std.ExtTreeMap.getElem?_insert_self]

end Files

namespace CommandLine
open Document
variable {libraries : Libraries} {files : Files} {args : Args} {limits : Limits}
  {document : Document} {edits : List (String × String)}

/-- The document that a run begins with: empty, or loaded from the sheet file. -/
def opened (files : Files) (limits : Limits) (file : Option String) : Document :=
  match file with
  | none => fresh limits
  | some path => ((fresh limits).load files path).2

/-- The edits of some arguments. -/
def editsOf (edits : List (String × String)) : List Edit := edits.map fun edit => ⟨edit.1, edit.2⟩

/-- The document of a run once its sheet is loaded, with the limits of its configuration. -/
def loadedFor (libraries : Libraries) (files : Files) (args : Args) (userConfig : String) :
    Document :=
  opened files (Config.loadWith libraries.settings? files args.config userConfig).1.limits args.file

/-- **The document that a run leads to**: loaded, and with all edits made in their order. -/
def documentFor (libraries : Libraries) (files : Files) (args : Args) (userConfig : String) :
    Document :=
  (loadedFor libraries files args userConfig).edited (editsOf args.edits)

/-- **Why a run is stopped**: the sheet file is refused, or an edit names no cell. -/
inductive Stopped (files : Files) (args : Args) : Prop
  | unreadable {path : String} {error : DocumentError} : args.file = some path →
      Unreadable files path error → Stopped files args
  | noCell {edit : String × String} {error : AddressError} : edit ∈ args.edits →
      CellRef.parse edit.1 = .error error → Stopped files args

/-! ### Loading -/

theorem sound_opened (files : Files) (limits : Limits) (file : Option String) :
    (opened files limits file).Sound := by
  cases file with
  | none => exact sound_fresh limits
  | some path =>
    show ((fresh limits).load files path).2.Sound
    obtain ⟨error, herror⟩ | ⟨sheet, hsheet⟩ := unreadable_or_holding files path
    · rw [load_of_unreadable herror]
      exact sound_fresh limits
    · rw [load_of_holding hsheet]
      exact sound_loaded hsheet

theorem openDocument_of_unreadable {path : String} {error : DocumentError}
    (h : Unreadable files path error) (limits : Limits) :
    openDocument files limits (some path) =
      .error ("Failed to load " ++ path ++ ": " ++ error.message) := by
  have hload : (({ limits } : Document)).load files path = (.error error, { limits }) :=
    load_of_unreadable h
  simp only [openDocument, hload]

/-- A sheet file that is not refused is loaded. -/
theorem openDocument_eq {file : Option String}
    (h : ∀ path error, file = some path → ¬ Unreadable files path error) (limits : Limits) :
    openDocument files limits file = .ok (opened files limits file) := by
  cases file with
  | none => rfl
  | some path =>
    obtain ⟨error, herror⟩ | ⟨sheet, hsheet⟩ := unreadable_or_holding files path
    · exact absurd herror (h path error rfl)
    · have hload : (({ limits } : Document)).load files path =
          (.ok ((fresh limits).loaded path sheet).tally, (fresh limits).loaded path sheet) :=
        load_of_holding hsheet
      have hopened : opened files limits (some path) = (fresh limits).loaded path sheet := by
        show ((fresh limits).load files path).2 = _
        rw [load_of_holding hsheet]
      rw [hopened]
      simp only [openDocument, hload]

/-! ### Edits -/

/-- The warnings about some edits, each made behind those before it. -/
def warned (document : Document) : List (String × String) → List String
  | [] => []
  | edit :: rest =>
    ((document.enterAt edit.1 edit.2).1.toOption.map (warningOf edit.1)).getD [] ++
      warned (document.enterAt edit.1 edit.2).2 rest

/-- **Edits of cells go through,** and nothing comes of them but warnings. -/
theorem applyEdits_of_parse (h : document.Sound) (warnings : List String)
    (hcells : ∀ edit ∈ edits, ∃ place, CellRef.parse edit.1 = .ok place) :
    applyEdits document warnings edits =
      (warnings ++ warned document edits, .ok (document.edited (editsOf edits))) := by
  induction edits generalizing document warnings with
  | nil => rw [applyEdits, warned, List.append_nil]; rfl
  | cons edit rest ih =>
    obtain ⟨⟨place, hparse⟩, hrest⟩ := List.forall_mem_cons.mp hcells
    obtain ⟨outcome, houtcome⟩ := exists_outcome_enterAt h hparse edit.2
    -- The edit may be rejected, but the document is sound for those behind it.
    have hsound := (sound_enterAt h edit.1 edit.2).1
    obtain ⟨cell, input⟩ := edit
    have henter : document.enterAt cell input =
        (.ok outcome, (document.enterAt cell input).2) := Prod.ext houtcome rfl
    rw [applyEdits, henter]
    simp only
    rw [ih hsound _ hrest, warned, houtcome, List.append_assoc]
    rfl

/-- **An edit that names no cell stops the run,** if nothing else does before. -/
theorem applyEdits_of_noCell (hcell : ∃ edit ∈ edits, ∃ error, CellRef.parse edit.1 = .error error)
    (document : Document) (warnings : List String) :
    ∃ given message, applyEdits document warnings edits = (given, .error message) := by
  induction edits generalizing document warnings with
  | nil => obtain ⟨edit, hedit, -⟩ := hcell; cases hedit
  | cons edit rest ih =>
    obtain ⟨cell, input⟩ := edit
    rw [applyEdits]
    split
    · rename_i outcome edited henter
      refine ih ?_ _ _
      obtain ⟨other, hother, error, herror⟩ := hcell
      rcases List.mem_cons.mp hother with rfl | hrest
      · -- This edit went through, so its address is not the malformed one.
        simp only [Document.enterAt, herror] at henter
        cases henter
      · exact ⟨other, hrest, error, herror⟩
    · exact ⟨_, _, rfl⟩

theorem warningOf_subset_warned {before behind : List (String × String)} {edit : String × String}
    {outcome : CellOutcome}
    (h : ((document.edited (editsOf before)).enterAt edit.1 edit.2).1 = .ok outcome) :
    warningOf edit.1 outcome ⊆ warned document (before ++ edit :: behind) := by
  induction before generalizing document with
  | nil =>
    intro warning hwarning
    have henter : (document.enterAt edit.1 edit.2).1 = .ok outcome := h
    rw [List.nil_append, warned, henter]
    exact List.mem_append_left _ hwarning
  | cons first rest ih =>
    intro warning hwarning
    rw [List.cons_append, warned]
    exact List.mem_append_right _ (ih h hwarning)

/-! ### The end of a run -/

/-- The formula of a run has no value: its evaluation against the document fails. -/
def Faulted (document : Document) (args : Args) : Prop :=
  ∃ formula error, args.command = some formula ∧
    Formula.evaluate document.limits document.sheet.lookup formula = .error error

/-- The values that a run is to write cannot be written. -/
def Unwritten (files : Files) (args : Args) (document : Document) : Prop :=
  ∃ path fault, args.output = some path ∧ files.write path document.sheet.report = .error fault

/-- **How a run answers** once all edits are made: it prints the value that the formula evaluates to
against the document, or an error, and nothing else if it was asked for anything; it writes the
report of the values, also when the formula has no value; and its exit code tells whether both
worked. -/
structure Answered (files : Files) (args : Args) (document : Document) (outcome : Outcome) :
    Prop where
  value : ∀ formula value, args.command = some formula →
    Formula.evaluate document.limits document.sheet.lookup formula = .ok value →
      outcome.stdout = value.display ++ "\n"
  fault : ∀ formula error, args.command = some formula →
    Formula.evaluate document.limits document.sheet.lookup formula = .error error →
      outcome.stdout = "#ERROR\n"
  report : args.command = none → args.output = none → outcome.stdout = document.sheet.report
  silent : args.command = none → args.output ≠ none → outcome.stdout = ""
  written : ∀ path after, args.output = some path →
    files.write path document.sheet.report = .ok after →
      outcome.files = after ∧ outcome.files.bytes path = .ok document.sheet.report.toUTF8
  kept : (∀ path after, args.output = some path →
    files.write path document.sheet.report ≠ .ok after) → outcome.files = files
  failed : Faulted document args ∨ Unwritten files args document → outcome.code = 1
  succeeded : ¬ (Faulted document args ∨ Unwritten files args document) → outcome.code = 0

/-- A preview is the evaluation of the formula against the document. -/
theorem preview_eq_evaluate (document : Document) (formula : String) : document.preview formula =
    Formula.evaluate document.limits document.sheet.lookup formula := rfl

/-- What the formula of a run prints and says, and the exit code it asks for. -/
def answerOf (document : Document) (args : Args) : String × List String × UInt8 :=
  (args.command.map (answer document)).getD ("", [], 0)

theorem answerOf_value {formula : String} {value : Value} (h : args.command = some formula)
    (hvalue : Formula.evaluate document.limits document.sheet.lookup formula = .ok value) :
    answerOf document args = (value.display ++ "\n", [], 0) := by
  rw [answerOf, h]
  show answer document formula = _
  rw [answer, preview_eq_evaluate, hvalue]

theorem answerOf_fault {formula : String} {error : FormulaError} (h : args.command = some formula)
    (herror : Formula.evaluate document.limits document.sheet.lookup formula = .error error) :
    answerOf document args = ("#ERROR\n", ["Error: " ++ error.message], 1) := by
  rw [answerOf, h]
  show answer document formula = _
  rw [answer, preview_eq_evaluate, herror]
  rfl

theorem answerOf_none (h : args.command = none) : answerOf document args = ("", [], 0) := by
  rw [answerOf, h]
  rfl

/-- **A run ends without a file to write, or writes it, or cannot write it.** -/
theorem conclude_cases (document : Document) (messages : List String) (files : Files)
    (args : Args) :
    (args.output = none ∧ conclude document messages files args =
      ⟨(answerOf document args).2.2,
        if args.command.isSome then (answerOf document args).1 else document.sheet.report,
        messages ++ (answerOf document args).2.1, files⟩) ∨
    (∃ path after, args.output = some path ∧
      files.write path document.sheet.report = .ok after ∧
      conclude document messages files args =
        ⟨(answerOf document args).2.2, (answerOf document args).1,
          messages ++ (answerOf document args).2.1 ++ ["Exported to " ++ path], after⟩) ∨
    ∃ path fault message, args.output = some path ∧
      files.write path document.sheet.report = .error fault ∧
      conclude document messages files args =
        ⟨1, (answerOf document args).1, messages ++ (answerOf document args).2.1 ++ [message],
          files⟩ := by
  cases houtput : args.output with
  | none =>
    refine Or.inl ⟨rfl, ?_⟩
    simp only [conclude, houtput]
    rfl
  | some path =>
    cases hwrite : files.write path document.sheet.report with
    | ok after =>
      refine Or.inr (Or.inl ⟨path, after, rfl, hwrite, ?_⟩)
      simp only [conclude, houtput, exportReport, hwrite, Except.mapError]
      rfl
    | error fault =>
      refine Or.inr (Or.inr ⟨path, fault, "Error: Failed to write " ++ path ++ ": " ++
        (DocumentError.file path fault).message, rfl, hwrite, ?_⟩)
      simp only [conclude, houtput, exportReport, hwrite, Except.mapError]
      rfl

theorem messages_subset_conclude (document : Document) (messages : List String) (files : Files)
    (args : Args) : messages ⊆ (conclude document messages files args).stderr := by
  intro message hmessage
  obtain ⟨-, h⟩ | ⟨path, after, -, -, h⟩ | ⟨path, fault, _, -, -, h⟩ :=
    conclude_cases document messages files args
  · rw [h]
    exact List.mem_append_left _ hmessage
  · rw [h]
    exact List.mem_append_left _ (List.mem_append_left _ hmessage)
  · rw [h]
    exact List.mem_append_left _ (List.mem_append_left _ hmessage)

theorem stdout_conclude_of_some {formula : String} (h : args.command = some formula)
    (messages : List String) :
    (conclude document messages files args).stdout = (answerOf document args).1 := by
  obtain ⟨-, hend⟩ | ⟨path, after, -, -, hend⟩ | ⟨path, fault, _, -, -, hend⟩ :=
    conclude_cases document messages files args
  · rw [hend, h]
    rfl
  · rw [hend]
  · rw [hend]

theorem code_answerOf_of_faulted (h : Faulted document args) :
    (answerOf document args).2.2 = 1 := by
  obtain ⟨formula, error, hcommand, herror⟩ := h
  rw [answerOf_fault hcommand herror]

theorem code_answerOf_of_not_faulted (h : ¬ Faulted document args) :
    (answerOf document args).2.2 = 0 := by
  cases hcommand : args.command with
  | none => rw [answerOf_none hcommand]
  | some formula =>
    cases hvalue : Formula.evaluate document.limits document.sheet.lookup formula with
    | ok value => rw [answerOf_value hcommand hvalue]
    | error error => exact absurd ⟨formula, error, hcommand, hvalue⟩ h

/-- **The end of a run answers** from its last document and the files. -/
theorem answered_conclude (document : Document) (messages : List String) (files : Files)
    (args : Args) : Answered files args document (conclude document messages files args) := by
  have hcases := conclude_cases document messages files args
  refine ⟨fun formula value hcommand hvalue => ?_, fun formula error hcommand herror => ?_,
    fun hcommand houtput => ?_, fun hcommand houtput => ?_, fun path after houtput hwrite => ?_,
    fun hrefused => ?_, fun hfailed => ?_, fun hnot => ?_⟩
  · rw [stdout_conclude_of_some hcommand, answerOf_value hcommand hvalue]
  · rw [stdout_conclude_of_some hcommand, answerOf_fault hcommand herror]
  · obtain ⟨-, h⟩ | ⟨_, _, hsome, -⟩ | ⟨_, _, _, hsome, -⟩ := hcases
    · rw [h, hcommand]
      rfl
    · cases houtput.symm.trans hsome
    · cases houtput.symm.trans hsome
  · obtain ⟨hnone, -⟩ | ⟨_, _, -, -, h⟩ | ⟨_, _, _, -, -, h⟩ := hcases
    · exact absurd hnone houtput
    · rw [h, answerOf_none hcommand]
    · rw [h, answerOf_none hcommand]
  · obtain ⟨hnone, -⟩ | ⟨_, _, hsome, hok, h⟩ | ⟨_, _, _, hsome, herror, -⟩ := hcases
    · cases houtput.symm.trans hnone
    · obtain rfl := Option.some.inj (houtput.symm.trans hsome)
      obtain rfl := Except.ok.inj (hwrite.symm.trans hok)
      rw [h]
      exact ⟨rfl, Files.bytes_write hwrite⟩
    · obtain rfl := Option.some.inj (houtput.symm.trans hsome)
      cases hwrite.symm.trans herror
  · obtain ⟨-, h⟩ | ⟨path, after, hsome, hok, -⟩ | ⟨_, _, _, -, -, h⟩ := hcases
    · rw [h]
    · exact absurd hok (hrefused path after hsome)
    · rw [h]
  · obtain ⟨hnone, h⟩ | ⟨_, _, hsome, hok, h⟩ | ⟨_, _, _, -, -, h⟩ := hcases
    · rw [h]
      refine code_answerOf_of_faulted (hfailed.resolve_right ?_)
      rintro ⟨path, fault, hsome, -⟩
      cases hnone.symm.trans hsome
    · rw [h]
      refine code_answerOf_of_faulted (hfailed.resolve_right ?_)
      rintro ⟨path, fault, hother, herror⟩
      obtain rfl := Option.some.inj (hsome.symm.trans hother)
      cases hok.symm.trans herror
    · rw [h]
  · have hcode := code_answerOf_of_not_faulted fun hfaulted => hnot (Or.inl hfaulted)
    obtain ⟨-, h⟩ | ⟨_, _, -, -, h⟩ | ⟨path, fault, _, hsome, herror, -⟩ := hcases
    · rw [h]
      exact hcode
    · rw [h]
      exact hcode
    · exact absurd (Or.inr ⟨path, fault, hsome, herror⟩) hnot

/-! ### Runs -/

/-- A run that is stopped changes no file and prints nothing. -/
theorem perform_of_stopped (h : Stopped files args) (libraries : Libraries) (userConfig : String) :
    (perform libraries files args userConfig).stdout = "" ∧
      (perform libraries files args userConfig).files = files ∧
      (perform libraries files args userConfig).code = 1 := by
  unfold perform
  simp only
  split
  · exact ⟨rfl, rfl, rfl⟩
  rename_i document hopen
  split
  · exact ⟨rfl, rfl, rfl⟩
  · -- Both stages went through, which either reason rules out.
    rename_i messages edited hedits
    cases h with
    | unreadable hfile hunreadable =>
      rw [hfile, openDocument_of_unreadable hunreadable] at hopen
      cases hopen
    | noCell hedit hcell =>
      obtain ⟨given, message, hstop⟩ := applyEdits_of_noCell ⟨_, hedit, _, hcell⟩ document _
      cases hstop.symm.trans hedits

/-- A run that is not stopped comes to its end with the document that its edits lead to, and with
the warnings about them. -/
theorem perform_of_not_stopped (h : ¬ Stopped files args) (libraries : Libraries)
    (userConfig : String) :
    ∃ messages, warned (loadedFor libraries files args userConfig) args.edits ⊆ messages ∧
      perform libraries files args userConfig =
        conclude (documentFor libraries files args userConfig) messages files args := by
  have hopen : openDocument files
      (Config.loadWith libraries.settings? files args.config userConfig).1.limits args.file =
        .ok (loadedFor libraries files args userConfig) :=
    openDocument_eq (fun _ _ hfile hunreadable => h (.unreadable hfile hunreadable)) _
  have hcells : ∀ edit ∈ args.edits, ∃ place, CellRef.parse edit.1 = .ok place := by
    intro edit hedit
    cases hparse : CellRef.parse edit.1 with
    | ok place => exact ⟨place, rfl⟩
    | error error => exact absurd (.noCell hedit hparse) h
  have hsound : (loadedFor libraries files args userConfig).Sound := sound_opened ..
  unfold perform
  simp only
  rw [hopen]
  simp only
  rw [applyEdits_of_parse hsound _ hcells]
  exact ⟨_, List.subset_append_right .., rfl⟩

/-- An edit of a run that is not stopped goes through at its turn. -/
theorem exists_outcome_of_not_stopped (h : ¬ Stopped files args) (libraries : Libraries)
    (userConfig : String) {before behind : List (String × String)} {edit : String × String}
    (hedits : args.edits = before ++ edit :: behind) :
    ∃ outcome, (((loadedFor libraries files args userConfig).edited (editsOf before)).enterAt
      edit.1 edit.2).1 = .ok outcome := by
  have hsound : ((loadedFor libraries files args userConfig).edited (editsOf before)).Sound :=
    (sound_edited (sound_opened ..) _).1
  cases hparse : CellRef.parse edit.1 with
  | ok place => exact exists_outcome_enterAt hsound hparse edit.2
  | error error =>
    have hmem : edit ∈ args.edits := hedits ▸ List.mem_append_right _ List.mem_cons_self
    exact absurd (.noCell hmem hparse) h

/-- **The outcome of a run.**  A run that is stopped prints nothing, writes no file, and exits with
one.  Any other run answers from the document that all edits lead to.  None of its edits stops it:
one with a faulting formula, or with one that is rejected for a cycle, is only warned about. -/
theorem run_outcome {words : List String} {args : Args} (h : Args.parse words = .ok (some args))
    (libraries : Libraries) (files : Files) (userConfig : String) :
    (Stopped files args → (runWith libraries files words userConfig).stdout = "" ∧
      (runWith libraries files words userConfig).files = files ∧
      (runWith libraries files words userConfig).code = 1) ∧
    (¬ Stopped files args →
      Answered files args (documentFor libraries files args userConfig)
        (runWith libraries files words userConfig) ∧
      ∀ before edit behind, args.edits = before ++ edit :: behind →
        ∃ outcome, (((loadedFor libraries files args userConfig).edited (editsOf before)).enterAt
            edit.1 edit.2).1 = .ok outcome ∧
          (∀ error, outcome = .faulted error → "Warning: " ++ edit.1 ++ ": " ++ error.message ∈
            (runWith libraries files words userConfig).stderr) ∧
          ∀ error, outcome = .rejected error → "Warning: " ++ edit.1 ++ ": " ++ error.message ∈
            (runWith libraries files words userConfig).stderr) := by
  have hrun : runWith libraries files words userConfig =
      perform libraries files args userConfig := by simp only [runWith, h]
  rw [hrun]
  refine ⟨fun hstopped => perform_of_stopped hstopped libraries userConfig, fun hnot => ?_⟩
  obtain ⟨messages, hwarned, hperform⟩ := perform_of_not_stopped hnot libraries userConfig
  rw [hperform]
  refine ⟨answered_conclude .., fun before edit behind hedits => ?_⟩
  obtain ⟨outcome, houtcome⟩ := exists_outcome_of_not_stopped hnot libraries userConfig hedits
  have hsaid : warningOf edit.1 outcome ⊆
      (conclude (documentFor libraries files args userConfig) messages files args).stderr := by
    rw [hedits] at hwarned
    exact List.Subset.trans (warningOf_subset_warned houtcome)
      (List.Subset.trans hwarned (messages_subset_conclude _ messages files args))
  refine ⟨outcome, houtcome, ?_, ?_⟩
  · rintro error rfl
    exact hsaid List.mem_cons_self
  · rintro error rfl
    exact hsaid List.mem_cons_self

/-- Libraries that read no setting and have nothing to say about a filter. -/
def bareLibraries : Libraries := ⟨fun _ => some [], fun _ => []⟩

/-- A sheet file with a quotient. -/
def quotientFile : Files := (∅ : Files).put "sheet.txt" "A1: 2\nB1: =6/A1\n".toUTF8

/-- A quotient by a cell that is edited before. -/
def quotientWords : List String := ["sheet.txt", "-s", "A1=3", "-c", "=6/A1"]

/-- The arguments that these words spell. -/
def quotientArgs : Args where
  file := some "sheet.txt"
  command := some "=6/A1"
  edits := [("A1", "3")]

/-- A formula that faults, behind an edit that closes a cycle and one that has no value. -/
def faultyWords : List String :=
  ["sheet.txt", "-s", "A1==B1", "-c", "=6/A1", "-s", "c1==1/0", "-s", "A1=0", "-o", "values.txt"]

/-- The arguments that these words spell. -/
def faultyArgs : Args where
  file := some "sheet.txt"
  command := some "=6/A1"
  edits := [("A1", "=B1"), ("c1", "=1/0"), ("A1", "0")]
  output := some "values.txt"

/-- A run on the sheet with the quotient is not stopped if its edits name cells. -/
theorem not_stopped_quotientFile (hfile : args.file = some "sheet.txt")
    (hcells : ∀ edit ∈ args.edits, (CellRef.parse edit.1).isOk) : ¬ Stopped quotientFile args := by
  have hread : (readSheet quotientFile "sheet.txt").isOk := by decide +kernel
  rintro (⟨hother, hunreadable⟩ | ⟨hedit, hcell⟩)
  · obtain rfl := Option.some.inj (hfile.symm.trans hother)
    rw [readSheet_of_unreadable hunreadable] at hread
    cases hread
  · have := hcells _ hedit
    rw [hcell] at this
    cases this

set_option maxRecDepth 100000 in
/-- The quotient is taken of the edited cell.  In the other run the edits only warn, the formula
makes the run fail, and the values are written all the same.  With a cell that has no address
nothing is written. -/
theorem quotientFile_outcomes :
    (runWith bareLibraries quotientFile quotientWords "").stdout = "2\n" ∧
      (runWith bareLibraries quotientFile quotientWords "").code = 0 ∧
      (runWith bareLibraries quotientFile faultyWords "").stdout = "#ERROR\n" ∧
      (runWith bareLibraries quotientFile faultyWords "").code = 1 ∧
      (runWith bareLibraries quotientFile faultyWords "").files.bytes "values.txt" =
        .ok "# Cubecell values\nA1: 0\nB1: #ERROR\nC1: #ERROR\n".toUTF8 ∧
      "Warning: c1: Division by zero" ∈
        (runWith bareLibraries quotientFile faultyWords "").stderr ∧
      (runWith bareLibraries quotientFile ["-s", "1A=2", "-o", "values.txt"] "").files =
        quotientFile := by
  -- The run that prints a value.
  have hquotient : Args.parse quotientWords = .ok (some quotientArgs) := by decide +kernel
  obtain ⟨hprinted, -⟩ := (run_outcome hquotient bareLibraries quotientFile "").2
    (not_stopped_quotientFile rfl (by decide +kernel))
  have hvalue : Formula.evaluate (documentFor bareLibraries quotientFile quotientArgs "").limits
      (documentFor bareLibraries quotientFile quotientArgs "").sheet.lookup "=6/A1" =
        .ok (.number 2) := by decide +kernel
  have hworked : ¬ (Faulted (documentFor bareLibraries quotientFile quotientArgs "") quotientArgs ∨
      Unwritten quotientFile quotientArgs
        (documentFor bareLibraries quotientFile quotientArgs "")) := by
    rintro (⟨formula, error, ⟨⟩, herror⟩ | ⟨path, fault, hpath, -⟩)
    · cases hvalue.symm.trans herror
    · cases hpath
  -- The run whose formula faults.
  have hfaulty : Args.parse faultyWords = .ok (some faultyArgs) := by decide +kernel
  obtain ⟨hanswered, hedits⟩ := (run_outcome hfaulty bareLibraries quotientFile "").2
    (not_stopped_quotientFile rfl (by decide +kernel))
  have hfault : Formula.evaluate (documentFor bareLibraries quotientFile faultyArgs "").limits
      (documentFor bareLibraries quotientFile faultyArgs "").sheet.lookup "=6/A1" =
        .error (.arithmetic .divideByZero) := by decide +kernel
  have hreport : (documentFor bareLibraries quotientFile faultyArgs "").sheet.report =
      "# Cubecell values\nA1: 0\nB1: #ERROR\nC1: #ERROR\n" := by decide +kernel
  have hwrite : ∃ after, quotientFile.write "values.txt"
      (documentFor bareLibraries quotientFile faultyArgs "").sheet.report = .ok after := by
    rw [hreport]
    exact ⟨_, rfl⟩
  have hfaulted : (((loadedFor bareLibraries quotientFile faultyArgs "").edited
      (editsOf [("A1", "=B1")])).enterAt "c1" "=1/0").1 =
        .ok (.faulted (.arithmetic .divideByZero)) := by decide +kernel
  have hwarned : "Warning: c1: Division by zero" ∈
      (runWith bareLibraries quotientFile faultyWords "").stderr := by
    obtain ⟨outcome, houtcome, hwarning, -⟩ :=
      hedits [("A1", "=B1")] ("c1", "=1/0") [("A1", "0")] rfl
    exact hwarning _ (Except.ok.inj (houtcome.symm.trans hfaulted))
  obtain ⟨after, hafter⟩ := hwrite
  have hbytes := (hanswered.written "values.txt" after rfl hafter).2
  rw [hreport] at hbytes
  -- The run that is stopped.
  have hstray : Args.parse ["-s", "1A=2", "-o", "values.txt"] =
      .ok (some { edits := [("1A", "2")], output := some "values.txt" }) := by decide +kernel
  have hcell : CellRef.parse "1A" = .error ⟨.missingColumn, "1A"⟩ := by decide +kernel
  obtain ⟨-, hkept, -⟩ := (run_outcome hstray bareLibraries quotientFile "").1
    (.noCell List.mem_cons_self hcell)
  exact ⟨hprinted.value _ _ rfl hvalue, hprinted.succeeded hworked, hanswered.fault _ _ rfl hfault,
    hanswered.failed (Or.inl ⟨_, _, rfl, hfault⟩), hbytes, hwarned, hkept⟩

end CommandLine
end Gridcalc
