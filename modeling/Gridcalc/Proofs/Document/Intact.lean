import Gridcalc.Proofs.Cell
import Gridcalc.Proofs.Document.Input
import Gridcalc.Proofs.Document.Run

/-! # Documents stay intact

Sheet and graph are changed in separate steps, and a call may stop between them: an edit is
rejected with the new formula stored beside the old arrows, or a cascade comes to a cell whose
address cannot be read back.  What holds of a document after every call, whatever it answers, is
that it is *intact* (`Grid.Intact`): the graph is coherent and acyclic, only formulas read
anything, and each stored cell is *proper* (`Grid.Proper`).  A proper formula was calculated,
and if its arrows are not its references then it shows an error.

Calculating a cell touches that cell and its arrows only, and leaves it proper
(`Grid.Intact.replace`).  So a pass over a list of cells keeps a grid intact wherever it stops,
and cells without an address do no harm.  For a whole sheet the two halves of the calculation
tell what became of each cell (`Grid.intact_calculateAll`).
-/
namespace Gridcalc

namespace Grid
variable {grid base after : Grid} {place : CellRef} {cell : Cell} {formula text : String}

/-- **A proper cell**: one without a formula as it was entered, which reads nothing, or a
calculated formula, whose arrows are its references unless it shows an error. -/
inductive Proper (grid : Grid) (place : CellRef) : Cell → Prop
  | plain {cell : Cell} : cell.Plain → grid.graph.reads.targets place.address = ∅ →
      Proper grid place cell
  | formula {cell : Cell} {formula value : String} : cell.formula? = some formula →
      cell.value = some value → cell.isStale = false →
      grid.Linked place formula ∨ value = errorText → Proper grid place cell

/-- **An intact grid**: the graph is coherent and acyclic, every stored cell is proper, and only
formulas read anything. -/
structure Intact (grid : Grid) : Prop where
  coherent : grid.graph.Coherent
  acyclic : grid.graph.Acyclic
  proper : ∀ (place : CellRef) (cell : Cell), grid.sheet[place]? = some cell →
    grid.Proper place cell
  source : ∀ a b, grid.graph.Reads a b →
    ∃ place formula, grid.sheet.formulaAt? place = some formula ∧ place.address = a

/-! ### One cell -/

theorem Intact.exists_formulaAt? {b : String} (h : grid.Intact)
    (hread : grid.graph.Reads place.address b) :
    ∃ formula, grid.sheet.formulaAt? place = some formula := by
  obtain ⟨other, formula, hformula, he⟩ := h.source _ _ hread
  obtain rfl := CellRef.address_injective he
  exact ⟨formula, hformula⟩

theorem Proper.congr (h : grid.Proper place cell)
    (hreads : after.graph.reads.targets place.address = grid.graph.reads.targets place.address) :
    after.Proper place cell := by
  cases h with
  | plain hplain hempty => exact .plain hplain (hreads.trans hempty)
  | formula hformula hvalue hfresh hshown =>
    exact .formula hformula hvalue hfresh (hshown.imp_left hreads.trans)

/-- A formula for which a text was written is proper if its arrows are in place or the text is
the error. -/
theorem proper_showing (hformula : cell.formula? = some formula)
    (hshown : grid.Linked place formula ∨ text = errorText) :
    grid.Proper place (cell.showing text) := by
  refine .formula ((cell.formula?_showing text).trans hformula) rfl ?_ hshown
  simp [Cell.isStale, Cell.showing, Cell.markFresh]

/-- **Only one cell and its arrows changed, and the cell is proper.** -/
theorem Intact.replace (h : grid.Intact) (hc : after.graph.Coherent) (ha : after.graph.Acyclic)
    (hkept : ∀ a, a ≠ place.address →
      after.graph.reads.targets a = grid.graph.reads.targets a)
    (huntouched : ∀ other : CellRef, other ≠ place → after.sheet[other]? = grid.sheet[other]?)
    (hcell : after.sheet[place]? = some cell) (hproper : after.Proper place cell) :
    after.Intact where
  coherent := hc
  acyclic := ha
  proper := by
    intro other found hfound
    by_cases he : other = place
    · subst he
      rw [hcell] at hfound
      obtain rfl := Option.some.inj hfound
      exact hproper
    · rw [huntouched other he] at hfound
      exact (h.proper other found hfound).congr
        (hkept _ fun hn => he (CellRef.address_injective hn))
  source := by
    intro a b hab
    by_cases he : a = place.address
    · subst he
      cases hproper with
      | plain _ hempty =>
        rw [DependencyGraph.Reads, Adjacency.Arrow, hempty] at hab
        exact absurd hab Std.ExtTreeSet.not_mem_empty
      | formula hformula _ _ _ =>
        exact ⟨place, _, Sheet.formulaAt?_eq_some.mpr ⟨cell, hcell, hformula⟩, rfl⟩
    · rw [DependencyGraph.Reads, Adjacency.Arrow, hkept a he] at hab
      obtain ⟨other, formula, hformula, rfl⟩ := h.source a b hab
      refine ⟨other, formula, ?_, rfl⟩
      rw [Sheet.formulaAt?, huntouched other fun hn => he (hn ▸ rfl)]
      exact hformula

theorem getElem?_writeValue_of_some {sheet : Sheet} (hcell : sheet[place]? = some cell) :
    (sheet.writeValue place text)[place]? = some (cell.showing text) := by
  rw [Sheet.getElem?_writeValue_self, Std.ExtTreeMap.getD_eq_getD_getElem?, hcell]
  rfl

/-- **A text was written for a formula, and at most its cell and its arrows are not those of an
intact grid.** -/
theorem Intact.present (h : base.Intact) (hc : grid.graph.Coherent) (ha : grid.graph.Acyclic)
    (hkept : ∀ a, a ≠ place.address →
      grid.graph.reads.targets a = base.graph.reads.targets a)
    (huntouched : ∀ other : CellRef, other ≠ place → grid.sheet[other]? = base.sheet[other]?)
    (hformula : grid.sheet.formulaAt? place = some formula)
    (hshown : grid.Linked place formula ∨ text = errorText) : (grid.present place text).Intact := by
  obtain ⟨cell, hcell, hf⟩ := Sheet.formulaAt?_eq_some.mp hformula
  refine h.replace hc ha hkept (fun other hne => ?_) (getElem?_writeValue_of_some hcell)
    (proper_showing hf hshown)
  rw [← huntouched other hne]
  exact Sheet.getElem?_writeValue_of_ne hne

/-- **A formula put into an intact grid is proper once it is calculated,** with the arrows of the
cell as they were before. -/
theorem Intact.calculateCell_stored (h : base.Intact) (hgraph : grid.graph = base.graph)
    (huntouched : ∀ other : CellRef, other ≠ place → grid.sheet[other]? = base.sheet[other]?)
    (hformula : grid.sheet.formulaAt? place = some formula) :
    (grid.calculateCell place).2.Intact := by
  have hc : grid.graph.Coherent := hgraph ▸ h.coherent
  by_cases ha : (grid.adopt place formula).graph.Acyclic
  · have hkept : ∀ a, a ≠ place.address → (grid.adopt place formula).graph.reads.targets a =
        base.graph.reads.targets a := fun a hne => by
      rw [← hgraph]
      exact DependencyGraph.targets_rewire_of_ne hne
    rw [calculateCell_accepted hformula ha, evaluateInto_snd]
    exact h.present (hc.rewire _ _) ha hkept huntouched hformula
      (Or.inl DependencyGraph.targets_rewire_self)
  · -- Refused references leave the old arrows in place, and the cell shows the error.
    obtain ⟨error, herror⟩ := calculateCell_rejected hc hformula ha
    rw [herror]
    exact h.present hc (hgraph ▸ h.acyclic) (fun a _ => by rw [hgraph]) huntouched hformula
      (Or.inr rfl)

theorem Intact.calculateCell (h : grid.Intact) (place : CellRef) :
    (grid.calculateCell place).2.Intact := by
  cases hformula : grid.sheet.formulaAt? place with
  | none =>
    rw [calculateCell_plain hformula]
    exact h
  | some formula => exact h.calculateCell_stored rfl (fun _ _ => rfl) hformula

/-! ### What depends on a cell -/

/-- **A pass over any list of texts keeps a grid intact,** also when it stops early. -/
theorem Intact.calculateInOrder (h : grid.Intact) (steps : List String) :
    (calculateInOrder steps grid).2.Intact := by
  induction steps generalizing grid with
  | nil => exact h
  | cons address rest ih =>
    rw [Grid.calculateInOrder]
    split
    · exact h
    · exact ih (h.calculateCell _)

theorem Intact.cascade (h : grid.Intact) (place : CellRef) : (grid.cascade place).2.Intact := by
  rw [Grid.cascade]
  split
  · exact h
  · exact h.calculateInOrder _

/-- Calculating a stored formula keeps the rest intact, and carries the change on. -/
theorem Intact.calculate_stored (h : base.Intact) (hgraph : grid.graph = base.graph)
    (huntouched : ∀ other : CellRef, other ≠ place → grid.sheet[other]? = base.sheet[other]?)
    (hformula : grid.sheet.formulaAt? place = some formula) :
    (grid.calculate place).2.Intact := by
  have hcell := h.calculateCell_stored hgraph huntouched hformula
  obtain hself | ⟨-, -, hcascade⟩ := grid.calculate_cases place
  · rw [hself]
    exact hcell
  · rw [hcascade]
    exact hcell.cascade place

/-! ### The whole sheet -/

/-- A cell in which a text was written for its formula is unchanged by the same write. -/
theorem eq_showing_of_writeValue_eq {sheet : Sheet} (h : sheet.writeValue place text = sheet)
    (hcell : sheet[place]? = some cell) : cell = cell.showing text := by
  have hwritten := Sheet.writeValue_eq_self_iff.mp h
  rw [Std.ExtTreeMap.getD_eq_getD_getElem?, hcell] at hwritten
  exact Option.some.inj hwritten

section WholeSheet
variable (hc : grid.graph.Coherent) (ha : grid.graph.Acyclic)
include hc ha

/-- After a whole-sheet calculation every cell is proper. -/
theorem Calculated.proper (h : grid.Calculated after)
    (hplain : ∀ (place : CellRef) (cell : Cell), grid.sheet[place]? = some cell →
      cell.formula? = none → cell.Plain)
    (hcell : after.sheet[place]? = some cell) : after.Proper place cell := by
  have hformula : grid.sheet.formulaAt? place = cell.formula? := by
    rw [← h.recalculated.formulaAt?, Sheet.formulaAt?, hcell]
    rfl
  cases hf : cell.formula? with
  | none =>
    have hold : grid.sheet[place]? = some cell :=
      (h.recalculated.plain place (hformula.trans hf)).symm.trans hcell
    refine .plain (hplain place cell hold hf) ?_
    rw [h.graph]
    exact (verdict_of_getElem? hc ha hold).plain hf
  | some formula =>
    have hold := hformula.trans hf
    by_cases hlinked : after.Linked place formula
    · rw [eq_showing_of_writeValue_eq (h.settled place formula hold hlinked) hcell]
      exact proper_showing hf (Or.inl hlinked)
    · rw [eq_showing_of_writeValue_eq (h.rejected place formula hold hlinked) hcell]
      exact proper_showing hf (Or.inr rfl)

/-- **A whole-sheet calculation leaves an intact grid,** if cells without a formula are as they
were entered and only stored cells read anything. -/
theorem intact_calculateAll
    (hplain : ∀ (place : CellRef) (cell : Cell), grid.sheet[place]? = some cell →
      cell.formula? = none → cell.Plain)
    (hsource : ∀ a b, grid.graph.Reads a b →
      ∃ (place : CellRef) (cell : Cell), grid.sheet[place]? = some cell ∧ place.address = a) :
    grid.calculateAll.2.Intact := by
  obtain ⟨after, hcalculate, h⟩ := exists_calculated hc ha
  have hlinks := links_link hc ha
  rw [hcalculate]
  refine ⟨h.graph ▸ hlinks.coherent, h.graph ▸ hlinks.acyclic,
    fun place cell hcell => h.proper hc ha hplain hcell, fun a b hab => ?_⟩
  have hreads : b ∈ grid.link.grid.graph.reads.targets a := h.graph ▸ hab
  have hstored : ∃ (place : CellRef) (cell : Cell),
      grid.sheet[place]? = some cell ∧ place.address = a := by
    by_contra hnone
    -- What no stored cell reads was read before, by a stored cell.
    have hkept := hlinks.kept a fun entry hentry he =>
      hnone ⟨entry.1, entry.2, Std.ExtTreeMap.mem_toList_iff_getElem?_eq_some.mp hentry, he⟩
    rw [hkept] at hreads
    exact hnone (hsource a b hreads)
  obtain ⟨place, cell, hcell, rfl⟩ := hstored
  cases hf : cell.formula? with
  | none =>
    rw [(verdict_of_getElem? hc ha hcell).plain hf] at hreads
    exact absurd hreads Std.ExtTreeSet.not_mem_empty
  | some formula =>
    exact ⟨place, formula, (h.recalculated.formulaAt? place).trans
      (Sheet.formulaAt?_eq_some.mpr ⟨cell, hcell, hf⟩), rfl⟩

end WholeSheet

theorem Intact.plain (h : grid.Intact) (hcell : grid.sheet[place]? = some cell)
    (hnone : cell.formula? = none) : cell.Plain := by
  cases h.proper place cell hcell with
  | plain hplain _ => exact hplain
  | formula hformula _ _ _ =>
    rw [hnone] at hformula
    cases hformula

/-- **Storing a cell without a formula keeps a grid intact,** if the arrows of the cell are taken
away. -/
theorem Intact.insert_plain (h : grid.Intact) (place : CellRef) (hcell : cell.Plain) :
    Intact { grid with
      sheet := grid.sheet.insert place cell
      graph := grid.graph.clearReads place.address } :=
  h.replace (h.coherent.rewire _ _) h.acyclic.clearReads
    (fun _ hne => DependencyGraph.targets_rewire_of_ne hne)
    (fun _ => Sheet.getElem?_insert_of_ne) Std.ExtTreeMap.getElem?_insert_self
    (.plain hcell DependencyGraph.targets_rewire_self)

/-- **The grid of an edit is intact** when the edit closes no cycle. -/
theorem Intact.entered (h : grid.Intact)
    (ha : (grid.graph.rewire place.address cell.references).Acyclic)
    (hplain : cell.formula? = none → cell.Plain) : (grid.entered place cell).Intact := by
  cases hformula : cell.formula? with
  | none =>
    rw [Grid.entered, hformula, stored, Cell.references, hformula]
    exact h.insert_plain place (hplain hformula)
  | some formula =>
    have hcell := calculateCell_insert hformula ha
    have hintact : (Grid.calculateCell { grid with sheet := grid.sheet.insert place cell }
        place).2.Intact :=
      h.calculateCell_stored rfl (fun _ => Sheet.getElem?_insert_of_ne)
        (Sheet.formulaAt?_insert_self.trans hformula)
    rwa [hcell] at hintact

/-- A formula whose arrows are not its references shows an error. -/
theorem Intact.displayAt_of_not_linked (h : grid.Intact)
    (hformula : grid.sheet.formulaAt? place = some formula) (hnot : ¬ grid.Linked place formula) :
    grid.sheet.displayAt place = errorText := by
  obtain ⟨cell, hcell, hf⟩ := Sheet.formulaAt?_eq_some.mp hformula
  cases h.proper place cell hcell with
  | plain hplain _ =>
    rw [hplain.formula?_eq_none] at hf
    cases hf
  | formula hformula' hvalue _ hshown =>
    obtain rfl := Option.some.inj (hf.symm.trans hformula')
    rw [Sheet.displayAt, hcell, ← hshown.resolve_left hnot]
    show cell.value.getD "" = _
    rw [hvalue]
    rfl

theorem Intact.calculateAll (h : grid.Intact) : grid.calculateAll.2.Intact := by
  refine intact_calculateAll h.coherent h.acyclic (fun _ _ => h.plain) fun a b hab => ?_
  obtain ⟨place, formula, hformula, ha⟩ := h.source a b hab
  obtain ⟨cell, hcell, -⟩ := Sheet.formulaAt?_eq_some.mp hformula
  exact ⟨place, cell, hcell, ha⟩

theorem intact_of_empty (hsheet : grid.sheet = ∅) (hgraph : grid.graph = ∅) : grid.Intact where
  coherent := DependencyGraph.coherent_of_eq_empty hgraph
  acyclic := DependencyGraph.acyclic_of_eq_empty hgraph
  proper := by
    intro place cell hcell
    rw [hsheet, Std.ExtTreeMap.getElem?_empty] at hcell
    cases hcell
  source := by
    intro a b hab
    rw [hgraph] at hab
    exact absurd hab.mem Std.ExtTreeMap.not_mem_empty

end Grid

/-! ### Calls -/

namespace Document
variable {document : Document}

theorem intact_fresh (limits : Limits) : (fresh limits).Intact := Grid.intact_of_empty rfl rfl

/-- **Entering a text keeps a document intact,** into any cell and whatever the answer is. -/
theorem intact_enter (h : document.Intact) (place : CellRef) (typed : String) :
    (document.enter place typed).2.Intact := by
  cases hformula : (Cell.ofInput typed).formula? with
  | some formula =>
    rw [enter_of_formula hformula]
    exact h.calculate_stored rfl (fun _ => Sheet.getElem?_insert_of_ne)
      (Sheet.formulaAt?_insert_self.trans hformula)
  | none =>
    rw [enter_of_plain hformula]
    exact (h.insert_plain place (Cell.plain_ofInput hformula)).cascade place

theorem plain_of_holding {files : Files} {path : String} {sheet : Sheet}
    (h : Holding files path sheet) {place : CellRef} {cell : Cell}
    (hcell : sheet[place]? = some cell) (hnone : cell.formula? = none) : cell.Plain := by
  obtain ⟨_, _, -, -, -, htext⟩ := h
  refine Sheet.forall_of_ofText (P := fun _ cell => cell.formula? = none → cell.Plain)
    (fun _ _ _ _ _ _ hplain => Cell.plain_ofInput hplain) htext place cell hcell hnone

theorem intact_loaded {files : Files} {path : String} {sheet : Sheet}
    (h : Holding files path sheet) : (document.loaded path sheet).Intact :=
  Grid.intact_calculateAll DependencyGraph.coherent_empty DependencyGraph.acyclic_empty
    (fun _ _ => plain_of_holding h) fun _ _ hab => absurd hab.mem Std.ExtTreeMap.not_mem_empty

/-- **A sheet that was loaded leaves a sound document,** also if formulas of it were rejected. -/
theorem sound_loaded {files : Files} {path : String} {sheet : Sheet}
    (h : Holding files path sheet) : (document.loaded path sheet).Sound := by
  have hintact : (document.loaded path sheet).Intact := intact_loaded h
  refine ⟨hintact.coherent, hintact.acyclic, fun a b hab => ?_⟩
  obtain ⟨place, formula, hformula, rfl⟩ := hintact.source a b hab
  rw [calculated_loaded.recalculated.formulaAt?] at hformula
  exact ((allNamed_of_holding h).formula hformula).canonical

/-- **Loading keeps a document intact,** whether or not the file can be read. -/
theorem intact_load (h : document.Intact) (files : Files) (path : String) :
    (document.load files path).2.Intact := by
  obtain ⟨error, herror⟩ | ⟨sheet, hsheet⟩ := unreadable_or_holding files path
  · rw [load_of_unreadable herror]
    exact h
  · rw [load_of_holding hsheet]
    exact intact_loaded hsheet

theorem intact_enterAt (h : document.Intact) (address typed : String) :
    (document.enterAt address typed).2.Intact := by
  rw [enterAt]
  split
  · exact intact_enter h _ _
  · exact h

/-- **Each call keeps a document intact,** whatever it answers. -/
theorem intact_perform (h : document.Intact) (call : Call) : (document.perform call).2.Intact := by
  cases call with
  | enter edit => exact intact_enterAt h edit.address edit.typed
  | load files path => exact intact_load h files path
  | calculateAll => exact h.calculateAll

theorem intact_run (h : document.Intact) (calls : List Call) : (document.run calls).Intact := by
  induction calls generalizing document with
  | nil => exact h
  | cons call rest ih => exact ih (intact_perform h call)

theorem intact_edited (limits : Limits) (edits : List Edit) :
    ((fresh limits).edited edits).Intact := by
  rw [← run_map_enter]
  exact intact_run (intact_fresh limits) _

/-! ### Calls by coordinates -/

/-- A call that changes a document, with cells given by their coordinates. -/
inductive Operation where
  | enter (place : CellRef) (typed : String)
  | load (files : Files) (path : String)
  | calculateAll

/-- The document after a call, which may have failed. -/
def operate (document : Document) : Operation → Document
  | .enter place typed => (document.enter place typed).2
  | .load files path => (document.load files path).2
  | .calculateAll => document.calculateAll.2

/-- The document after some calls. -/
def operated (document : Document) (operations : List Operation) : Document :=
  operations.foldl operate document

theorem intact_operate (h : document.Intact) (operation : Operation) :
    (document.operate operation).Intact := by
  cases operation with
  | enter place typed => exact intact_enter h place typed
  | load files path => exact intact_load h files path
  | calculateAll => exact h.calculateAll

theorem intact_operated (h : document.Intact) (operations : List Operation) :
    (document.operated operations).Intact := by
  induction operations generalizing document with
  | nil => exact h
  | cons operation rest ih => exact ih (intact_operate h operation)

/-- **After any calls a document is intact.**  The graph is coherent and acyclic; a stored cell is
blank, a literal or a calculated formula; only formulas read anything; and a formula whose
arrows are not its references shows an error. -/
theorem intact_after_operations (limits : Limits) (operations : List Operation) :
    ((fresh limits).operated operations).graph.Coherent ∧
    ((fresh limits).operated operations).graph.Acyclic ∧
    (∀ (place : CellRef) (cell : Cell),
      ((fresh limits).operated operations).sheet[place]? = some cell →
      (cell = .blank ∧
        ((fresh limits).operated operations).graph.reads.targets place.address = ∅) ∨
      (∃ text, cell = .literal text ∧ text ≠ "" ∧ Text.trim text = text ∧
        Cell.isFormulaText text = false ∧
        ((fresh limits).operated operations).graph.reads.targets place.address = ∅) ∨
      ∃ formula value, cell.formula? = some formula ∧ cell.value = some value ∧
        cell.isStale = false ∧
        (((fresh limits).operated operations).graph.reads.targets place.address =
          Grid.referencesOf formula ∨ value = errorText)) ∧
    ∀ a b, ((fresh limits).operated operations).graph.Reads a b → ∃ place formula,
      ((fresh limits).operated operations).sheet.formulaAt? place = some formula ∧
        place.address = a := by
  have h := intact_operated (intact_fresh limits) operations
  refine ⟨h.coherent, h.acyclic, fun place cell hcell => ?_, h.source⟩
  cases h.proper place cell hcell with
  | plain hplain hempty =>
    cases hplain with
    | blank => exact Or.inl ⟨rfl, hempty⟩
    | literal hne htrim htext => exact Or.inr (Or.inl ⟨_, rfl, hne, htrim, htext, hempty⟩)
  | formula hformula hvalue hfresh hshown =>
    exact Or.inr (Or.inr ⟨_, _, hformula, hvalue, hfresh, hshown⟩)

/-- The first cell of the last column.  Its address does not read back. -/
def lastColumn : CellRef := ⟨0, 18446744073709551615⟩

/-- The cascade of the last edit of `A1` comes to the last column and stops there, so that `C1` is
not calculated.  The second edit of `B1` is rejected, and no file is there to be loaded. -/
def stoppedRun : List Operation :=
  [.enter ⟨0, 0⟩ " 1", .enter ⟨0, 1⟩ "=A1", .enter ⟨0, 2⟩ "=B1", .enter lastColumn "=A1",
    .enter ⟨0, 1⟩ "=C1+A1", .calculateAll, .load ∅ "missing", .enter ⟨0, 0⟩ "2"]

set_option maxRecDepth 100000 in
theorem stoppedRun_intact :
    ((fresh {}).operated stoppedRun).sheet[lastColumn]? =
        some ⟨some "=A1", some "1", some "=A1"⟩ ∧
      ((fresh {}).operated stoppedRun).graph.reads.targets lastColumn.address =
        Grid.referencesOf "=A1" ∧
      ∃ place formula, ((fresh {}).operated stoppedRun).sheet.formulaAt? place = some formula ∧
        place.address = "B1" := by
  obtain ⟨-, -, hproper, hsource⟩ := intact_after_operations {} stoppedRun
  have hcell : ((fresh {}).operated stoppedRun).sheet[lastColumn]? =
      some ⟨some "=A1", some "1", some "=A1"⟩ := by decide +kernel
  have hreads : "A1" ∈ ((fresh {}).operated stoppedRun).graph.reads.targets "B1" := by
    decide +kernel
  refine ⟨hcell, ?_, hsource "B1" "A1" hreads⟩
  rcases hproper _ _ hcell with ⟨hblank, -⟩ | ⟨text, hliteral, -⟩ | h
  · cases hblank
  · simp [Cell.literal] at hliteral
  · obtain ⟨formula, value, hformula, hvalue, -, hshown⟩ := h
    have he : some "=A1" = some formula := hformula
    obtain rfl := Option.some.inj he
    obtain rfl := Option.some.inj hvalue
    exact hshown.resolve_right (by decide)

end Document
end Gridcalc
