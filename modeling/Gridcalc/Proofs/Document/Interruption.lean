import Gridcalc.Proofs.Document.Frame
import Gridcalc.Proofs.Document.Gate

/-! # Cascades that break off

A cascade reads the addresses on its list again, one at a time.  The address of a cell in the last
column or the last row does not read back (`CellRef.parse_address`), and a text may be entered into
such a cell by its coordinates.  When its formula reads a cell, a change of that cell comes to an
address that it cannot read, and breaks off: the cells in front were calculated, those behind were
not (`Grid.calculateInOrder_cases`).

Nothing else breaks off a cascade of a document.  Only formulas read anything, and what they read
is written as an address that was read from text, so arrows lead to named cells only
(`Grid.ReadsNamed`).  The nodes whose address does not read back are then formulas in a last cell,
and an edit fails exactly when one of them depends on the edited cell
(`Document.enter_fails_iff_last_reader`).
-/
namespace Gridcalc

namespace Grid
open Relation
variable {grid base after : Grid} {place : CellRef} {formula : String}

/-! ### Lists with unreadable addresses -/

/-- **A pass goes through its list, or stops at the first last cell,** having calculated the cells
in front of it and no others. -/
theorem calculateInOrder_cases (steps : List String) (grid : Grid)
    (hsteps : ∀ a ∈ steps, ∃ cell : CellRef, cell.address = a) :
    ((∀ cell : CellRef, cell.address ∈ steps → ¬ cell.IsLast) ∧
      (grid.calculateInOrder steps).1 = .ok ()) ∨
    ∃ (earlier : List String) (cell : CellRef) (later : List String),
      steps = earlier ++ cell.address :: later ∧ cell.IsLast ∧
      (∀ other : CellRef, other.address ∈ earlier → ¬ other.IsLast) ∧
      grid.calculateInOrder steps = (.error (.address ⟨cell.lastFault, cell.address⟩),
        (grid.calculateInOrder earlier).2) := by
  induction steps generalizing grid with
  | nil => exact Or.inl ⟨fun _ h => absurd h List.not_mem_nil, rfl⟩
  | cons a rest ih =>
    obtain ⟨⟨first, rfl⟩, hrest⟩ := List.forall_mem_cons.mp hsteps
    by_cases hfirst : first.IsLast
    · refine Or.inr ⟨[], first, rest, rfl, hfirst, fun _ h => absurd h List.not_mem_nil, ?_⟩
      simp only [calculateInOrder, CellRef.parse_address, if_pos hfirst]
    · have hparse : CellRef.parse first.address = .ok first := CellRef.named_iff.mpr hfirst
      have hcons : ∀ {list : List String}, (∀ cell : CellRef, cell.address ∈ list → ¬ cell.IsLast) →
          ∀ cell : CellRef, cell.address ∈ first.address :: list → ¬ cell.IsLast := by
        intro list hlist cell hcell
        rcases List.mem_cons.mp hcell with he | hmem
        · exact CellRef.address_injective he ▸ hfirst
        · exact hlist cell hmem
      have hstep : ∀ list, grid.calculateInOrder (first.address :: list) =
          (grid.calculateCell first).2.calculateInOrder list := by
        intro list
        rw [calculateInOrder, hparse]
      obtain ⟨hnone, hok⟩ | ⟨earlier, cell, later, hsplit, hcell, hearlier, hstop⟩ :=
        ih (grid.calculateCell first).2 hrest
      · exact Or.inl ⟨hcons hnone, by rw [hstep, hok]⟩
      · refine Or.inr ⟨first.address :: earlier, cell, later, ?_, hcell, hcons hearlier, ?_⟩
        · rw [hsplit, List.cons_append]
        · rw [hstep, hstep, hstop]

/-! ### Arrows lead to named cells -/

/-- Every node that is read is the address of a named cell. -/
def ReadsNamed (grid : Grid) : Prop := ∀ a b, grid.graph.Reads a b → Address.Canonical b

theorem readsNamed_of_graph_empty (h : grid.graph = ∅) : grid.ReadsNamed := by
  intro a b hab
  rw [h] at hab
  exact absurd hab.mem Std.ExtTreeMap.not_mem_empty

theorem ReadsNamed.of_targets (h : grid.ReadsNamed) (htargets : ∀ a,
    after.graph.reads.targets a = grid.graph.reads.targets a ∨
    after.graph.reads.targets a = ∅ ∨
    ∃ formula, after.graph.reads.targets a = referencesOf formula) : after.ReadsNamed := by
  intro a b hab
  rw [DependencyGraph.Reads, Adjacency.Arrow] at hab
  obtain hkept | hempty | ⟨formula, hreferences⟩ := htargets a
  · exact h a b (by rwa [hkept] at hab)
  · rw [hempty] at hab
    exact absurd hab Std.ExtTreeSet.not_mem_empty
  · rw [hreferences] at hab
    exact canonical_of_mem_referencesOf hab

theorem ReadsNamed.calculateCell (h : grid.ReadsNamed) (hc : grid.graph.Coherent)
    (place : CellRef) : (grid.calculateCell place).2.ReadsNamed := by
  cases hformula : grid.sheet.formulaAt? place with
  | none =>
    rw [calculateCell_plain hformula]
    exact h
  | some formula =>
    by_cases ha : (grid.adopt place formula).graph.Acyclic
    · rw [calculateCell_accepted hformula ha, evaluateInto_snd]
      refine h.of_targets fun a => ?_
      by_cases he : a = place.address
      · exact Or.inr (Or.inr ⟨formula, he ▸ DependencyGraph.targets_rewire_self⟩)
      · exact Or.inl (DependencyGraph.targets_rewire_of_ne he)
    · obtain ⟨error, herror⟩ := calculateCell_rejected hc hformula ha
      rw [herror]
      exact h

theorem ReadsNamed.calculateInOrder (h : grid.ReadsNamed) (hintact : grid.Intact)
    (steps : List String) : (calculateInOrder steps grid).2.ReadsNamed := by
  induction steps generalizing grid with
  | nil => exact h
  | cons address rest ih =>
    rw [Grid.calculateInOrder]
    split
    · exact h
    · exact ih (h.calculateCell hintact.coherent _) (hintact.calculateCell _)

theorem ReadsNamed.cascade (h : grid.ReadsNamed) (hintact : grid.Intact) (place : CellRef) :
    (grid.cascade place).2.ReadsNamed := by
  rw [Grid.cascade]
  split
  · exact h
  · exact h.calculateInOrder hintact _

/-- Taking in the references of a sheet adds no other arrows. -/
theorem ReadsNamed.calculateAll (h : grid.ReadsNamed) (hc : grid.graph.Coherent)
    (ha : grid.graph.Acyclic) : grid.calculateAll.2.ReadsNamed := by
  obtain ⟨after, hafter, hcalculated⟩ := exists_calculated hc ha
  have hlinks := links_link hc ha
  rw [hafter]
  refine h.of_targets fun a => ?_
  rw [hcalculated.graph]
  by_cases hmem : ∃ entry ∈ grid.sheet.toList, entry.1.address = a
  · obtain ⟨entry, hentry, rfl⟩ := hmem
    have hverdict := hlinks.verdict entry hentry
    cases hformula : entry.2.formula? with
    | none => exact Or.inr (Or.inl (hverdict.plain hformula))
    | some formula =>
      by_cases hlinked : grid.link.grid.Linked entry.1 formula
      · exact Or.inr (Or.inr ⟨formula, hlinked⟩)
      · exact Or.inl (hverdict.rejected formula hformula hlinked).1
  · exact Or.inl (hlinks.kept a fun entry hentry he => hmem ⟨entry, hentry, he⟩)

/-! ### One cascade -/

theorem cascade_of_acyclic (hc : grid.graph.Coherent) (ha : grid.graph.Acyclic) :
    grid.cascade place = grid.calculateInOrder (grid.graph.agenda place.address) := by
  obtain ⟨order, horder, -⟩ := DependencyGraph.exists_order hc ha
  rw [Grid.cascade, DependencyGraph.agenda, horder]
  rfl

/-- What depends on a cell is a formula. -/
theorem Intact.exists_of_mem_agenda (h : grid.Intact) {a : String}
    (ha : a ∈ grid.graph.agenda place.address) : ∃ cell : CellRef, cell.address = a := by
  have hway := (DependencyGraph.mem_agenda h.coherent h.acyclic).mp ha
  obtain ⟨b, hab, -⟩ := TransGen.head'_iff.mp hway
  obtain ⟨cell, -, -, he⟩ := h.source a b hab
  exact ⟨cell, he⟩

theorem Intact.mem_agenda_iff (h : grid.Intact) {a : String} :
    a ∈ grid.graph.agenda place.address ↔ a ∈ grid.graph.allReaders place.address := by
  rw [DependencyGraph.mem_agenda h.coherent h.acyclic, DependencyGraph.mem_allReaders h.coherent]

/-- **The cascade of a cell stopped at another cell**: the cells in front of it on the agenda were
calculated, and it and those behind it were left as they were. -/
structure Interrupted (grid : Grid) (place cell : CellRef) (after : Grid) : Prop where
  last : cell.IsLast
  stopped : ∃ earlier later,
    grid.graph.agenda place.address = earlier ++ cell.address :: later ∧
    (∀ other : CellRef, other.address ∈ earlier → ¬ other.IsLast) ∧
    after = (grid.calculateInOrder earlier).2 ∧
    ∀ other : CellRef, other.address ∈ cell.address :: later →
      after.sheet[other]? = grid.sheet[other]?

/-- **A cascade goes through the whole agenda, or is interrupted at the first last cell on it.** -/
theorem Intact.cascade_cases (h : grid.Intact) (place : CellRef) :
    ((∀ cell : CellRef, cell.address ∈ grid.graph.allReaders place.address → ¬ cell.IsLast) ∧
      (grid.cascade place).1 = .ok ()) ∨
    ∃ (cell : CellRef) (after : Grid), cell.address ∈ grid.graph.allReaders place.address ∧
      grid.cascade place = (.error (.address ⟨cell.lastFault, cell.address⟩), after) ∧
      grid.Interrupted place cell after := by
  rw [cascade_of_acyclic h.coherent h.acyclic]
  simp only [← h.mem_agenda_iff]
  obtain hdone | ⟨earlier, cell, later, hsplit, hlast, hearlier, hstop⟩ :=
    grid.calculateInOrder_cases (grid.graph.agenda place.address)
      fun _ => h.exists_of_mem_agenda
  · exact Or.inl hdone
  · refine Or.inr ⟨cell, _, hsplit ▸ List.mem_append_right _ List.mem_cons_self, hstop, hlast,
      earlier, later, hsplit, hearlier, rfl, fun other hother => ?_⟩
    -- No cell is on the agenda twice, so the cells in front are other cells.
    have hnodup : (grid.graph.agenda place.address).Nodup :=
      DependencyGraph.nodup_agenda h.coherent h.acyclic
    rw [hsplit] at hnodup
    have hconfined := confined_calculateInOrder h earlier fun a ha =>
      h.exists_of_mem_agenda (hsplit ▸ List.mem_append_left _ ha)
    exact hconfined.untouched other fun hmem =>
      (List.nodup_append.mp hnodup).2.2 _ hmem _ hother rfl

/-- **A cascade fails exactly when a last cell depends on its cell.** -/
theorem Intact.cascade_eq_ok_iff (h : grid.Intact) (place : CellRef) :
    (grid.cascade place).1 = .ok () ↔
      ∀ cell : CellRef, cell.address ∈ grid.graph.allReaders place.address → ¬ cell.IsLast := by
  obtain ⟨hnone, hok⟩ | ⟨cell, after, hmem, hcascade, hstop⟩ := h.cascade_cases place
  · exact ⟨fun _ => hnone, fun _ => hok⟩
  · rw [hcascade]
    exact ⟨nofun, fun hnone => absurd hstop.last (hnone cell hmem)⟩

end Grid

/-! ### Documents -/

namespace Document
open Relation
variable {document : Document}

theorem readsNamed_enter (h : document.ReadsNamed) (hintact : document.Intact) (place : CellRef)
    (typed : String) : (document.enter place typed).2.ReadsNamed := by
  by_cases ha : (document.graph.rewire place.address (Cell.ofInput typed).references).Acyclic
  · have hentered : (document.entered place (Cell.ofInput typed)).ReadsNamed := by
      refine h.of_targets fun a => ?_
      rw [Grid.graph_entered]
      by_cases he : a = place.address
      · rw [he, DependencyGraph.targets_rewire_self, Cell.references]
        cases (Cell.ofInput typed).formula? with
        | none => exact Or.inr (Or.inl rfl)
        | some formula => exact Or.inr (Or.inr ⟨formula, rfl⟩)
      · exact Or.inl (DependencyGraph.targets_rewire_of_ne he)
    have hcascade := hentered.cascade (hintact.entered ha Cell.plain_ofInput) place
    rw [enter_of_acyclic ha]
    generalize Grid.cascade _ place = result at hcascade ⊢
    exact hcascade
  · obtain ⟨error, henter⟩ := enter_rejected hintact.coherent ha hintact.acyclic
    rw [henter]
    exact h

theorem readsNamed_load (h : document.ReadsNamed) (files : Files) (path : String) :
    (document.load files path).2.ReadsNamed := by
  obtain ⟨error, herror⟩ | ⟨sheet, hsheet⟩ := unreadable_or_holding files path
  · rw [load_of_unreadable herror]
    exact h
  · rw [load_of_holding hsheet]
    exact Grid.ReadsNamed.calculateAll
      (Grid.readsNamed_of_graph_empty rfl : (document.emptied sheet).toGrid.ReadsNamed)
      DependencyGraph.coherent_empty DependencyGraph.acyclic_empty

theorem readsNamed_operate (h : document.ReadsNamed) (hintact : document.Intact)
    (operation : Operation) : (document.operate operation).ReadsNamed := by
  cases operation with
  | enter place typed => exact readsNamed_enter h hintact place typed
  | load files path => exact readsNamed_load h files path
  | calculateAll => exact Grid.ReadsNamed.calculateAll h hintact.coherent hintact.acyclic

/-- **After any calls, arrows lead to named cells only.** -/
theorem readsNamed_operated (h : document.ReadsNamed) (hintact : document.Intact)
    (operations : List Operation) : (document.operated operations).ReadsNamed := by
  induction operations generalizing document with
  | nil => exact h
  | cons operation rest ih =>
    exact ih (readsNamed_operate h hintact operation) (intact_operate hintact operation)

/-- What depends on a cell is the same before and after the arrows of the cell are replaced. -/
theorem mem_allReaders_entered (h : document.Intact) {place : CellRef} {cell : Cell} {a : String}
    (ha : (document.graph.rewire place.address cell.references).Acyclic) :
    a ∈ (document.entered place cell).graph.allReaders place.address ↔
      a ∈ document.graph.allReaders place.address := by
  have hkept : ∀ b, b ≠ place.address →
      (document.graph.rewire place.address cell.references).reads.targets b =
        document.graph.reads.targets b := fun _ => DependencyGraph.targets_rewire_of_ne
  rw [Grid.graph_entered, DependencyGraph.mem_allReaders (h.coherent.rewire _ _),
    DependencyGraph.mem_allReaders h.coherent]
  exact ⟨DependencyGraph.transGen_of_kept ha hkept,
    DependencyGraph.transGen_of_kept h.acyclic fun b hne => (hkept b hne).symm⟩

/-- **An edit is rejected, or carried on to everything, or interrupted at a last cell.** -/
theorem enter_outcomes (h : document.Intact) (place : CellRef) (typed : String) :
    (∃ error, (document.enter place typed).1 = .ok (.rejected error)) ∨
    ((∀ cell : CellRef, cell.address ∈ document.graph.allReaders place.address → ¬ cell.IsLast) ∧
      ∃ outcome, (document.enter place typed).1 = .ok outcome) ∨
    ∃ (cell : CellRef) (after : Document),
      cell.address ∈ document.graph.allReaders place.address ∧
      document.enter place typed = (.error (.address ⟨cell.lastFault, cell.address⟩), after) ∧
      (∀ error, (document.enter place typed).1 ≠ .ok (.rejected error)) ∧
      (document.entered place (Cell.ofInput typed)).Interrupted place cell after.toGrid := by
  by_cases ha : (document.graph.rewire place.address (Cell.ofInput typed).references).Acyclic
  · right
    have hintact := h.entered ha Cell.plain_ofInput
    rw [enter_of_acyclic ha]
    simp only [← mem_allReaders_entered h ha]
    obtain ⟨hnone, hok⟩ | ⟨cell, after, hmem, hcascade, hstop⟩ := hintact.cascade_cases place
    · exact Or.inl ⟨hnone, document.outcomeFor (Cell.ofInput typed), by
        rw [Prod.map_fst, hok]; rfl⟩
    · rw [hcascade]
      exact Or.inr ⟨cell, _, hmem, rfl, nofun, hstop⟩
  · obtain ⟨error, henter⟩ := enter_rejected h.coherent ha h.acyclic
    exact Or.inl ⟨error, by rw [henter]⟩

/-- A text that is no formula is never rejected. -/
theorem enter_blank_ne_rejected (h : document.Intact) (place : CellRef) (error : CycleError) :
    (document.enter place "").1 ≠ .ok (.rejected error) := by
  intro hrejected
  refine not_acyclic_of_rejected hrejected ?_
  rw [ofInput_blank]
  exact h.acyclic.clearReads

theorem mem_nodes_of_mem_allReaders (h : document.Intact) {place : CellRef} {a : String}
    (ha : a ∈ document.graph.allReaders place.address) : a ∈ document.graph.nodes := by
  obtain ⟨b, hab, -⟩ := TransGen.head'_iff.mp ((DependencyGraph.mem_allReaders h.coherent).mp ha)
  exact h.coherent.mem_nodes.mpr ⟨b, Or.inl hab⟩

/-- A node whose address does not read back reads something: nothing can read it. -/
theorem exists_reads_of_last (h : document.Intact) (hnamed : document.ReadsNamed) {cell : CellRef}
    (hlast : cell.IsLast) (hnode : cell.address ∈ document.graph.nodes) :
    ∃ place : CellRef, document.graph.Reads cell.address place.address := by
  obtain ⟨b, hout | hin⟩ := h.coherent.mem_nodes.mp hnode
  · obtain ⟨place, -, rfl⟩ := hnamed _ _ hout
    exact ⟨place, hout⟩
  · obtain ⟨found, hparse, he⟩ := hnamed _ _ hin
    obtain rfl := CellRef.address_injective he
    rw [← he] at hparse
    exact absurd hlast (CellRef.named_iff.mp hparse)

/-- A node is the address of a cell, and of a formula if it does not read back. -/
theorem address_of_mem_nodes (h : document.Intact) (hnamed : document.ReadsNamed) {node : String}
    (hnode : node ∈ document.graph.nodes) :
    ∃ cell : CellRef, cell.address = node ∧
      CellRef.parse node = (if cell.IsLast then .error ⟨cell.lastFault, node⟩ else .ok cell) ∧
      (cell.IsLast → ∃ formula, document.sheet.formulaAt? cell = some formula) := by
  -- A node reads something, and then it is a formula, or it is read by one.
  obtain ⟨b, hout | hin⟩ := h.coherent.mem_nodes.mp hnode
  · obtain ⟨cell, formula, hformula, rfl⟩ := h.source _ _ hout
    exact ⟨cell, rfl, cell.parse_address, fun _ => ⟨formula, hformula⟩⟩
  · obtain ⟨cell, hparse, rfl⟩ := hnamed _ _ hin
    exact ⟨cell, rfl, cell.parse_address, fun hlast => absurd hlast (CellRef.named_iff.mp hparse)⟩

/-- An edit that is not rejected fails exactly when a last cell depends on its cell. -/
theorem enter_fails_iff (h : document.Intact) (place : CellRef) (typed : String) :
    (∃ error, (document.enter place typed).1 = .error error) ↔
      (∀ error, (document.enter place typed).1 ≠ .ok (.rejected error)) ∧
      ∃ cell : CellRef, cell.IsLast ∧
        cell.address ∈ document.graph.allReaders place.address := by
  obtain ⟨error, hrejected⟩ | ⟨hnone, outcome, hok⟩ | ⟨cell, after, hmem, henter, hnot, hstop⟩ :=
    enter_outcomes h place typed
  · rw [hrejected]
    exact ⟨nofun, fun hright => absurd rfl (hright.1 error)⟩
  · rw [hok]
    exact ⟨nofun, fun ⟨_, cell, hlast, hcell⟩ => absurd hlast (hnone cell hcell)⟩
  · exact ⟨fun _ => ⟨hnot, cell, hstop.last, hmem⟩, fun _ => ⟨_, congrArg Prod.fst henter⟩⟩

/-- An edit that fails was interrupted at the cell that the error names. -/
theorem interrupted_of_enter (h : document.Intact) {place : CellRef} {typed : String}
    {error : DocumentError} {after : Document}
    (henter : document.enter place typed = (.error error, after)) :
    ∃ cell : CellRef, error = .address ⟨cell.lastFault, cell.address⟩ ∧
      (document.entered place (Cell.ofInput typed)).Interrupted place cell after.toGrid := by
  obtain ⟨_, hrejected⟩ | ⟨-, outcome, hok⟩ | ⟨cell, _, -, hfailed, -, hstop⟩ :=
    enter_outcomes h place typed
  · rw [henter] at hrejected
    cases hrejected
  · rw [henter] at hok
    cases hok
  · obtain ⟨herror, rfl⟩ := Prod.mk.inj (henter.symm.trans hfailed)
    exact ⟨cell, Except.error.inj herror, hstop⟩

/-- **An edit fails exactly when a formula in the last column or the last row depends on its cell,**
after any calls, unless it is rejected.  Every node is the address of a cell and reads back as that
cell, except for formulas in the last column and the last row.  A cascade that comes to one of them
stops there, with the cells in front of it calculated and the others not.  So some edit of the
document fails exactly when such a formula reads anything. -/
theorem enter_fails_iff_last_reader (limits : Limits) (operations : List Operation)
    {document : Document} (hdocument : document = (fresh limits).operated operations) :
    (∀ node ∈ document.graph.nodes, ∃ cell : CellRef, cell.address = node ∧
      CellRef.parse node =
        (if cell.IsLast then .error ⟨cell.lastFault, node⟩ else .ok cell) ∧
      (cell.IsLast → ∃ formula, document.sheet.formulaAt? cell = some formula)) ∧
    (∀ place : CellRef, (document.cascade place).1 = .ok () ↔
      ∀ cell : CellRef, cell.address ∈ document.graph.allReaders place.address →
        ¬ cell.IsLast) ∧
    (∀ place typed, (∃ error, (document.enter place typed).1 = .error error) ↔
      (∀ error, (document.enter place typed).1 ≠ .ok (.rejected error)) ∧
      ∃ cell : CellRef, cell.IsLast ∧
        cell.address ∈ document.graph.allReaders place.address) ∧
    (∀ place typed error after, document.enter place typed = (.error error, after) →
      ∃ cell : CellRef, error = .address ⟨cell.lastFault, cell.address⟩ ∧
        (document.entered place (Cell.ofInput typed)).Interrupted place cell after.toGrid) ∧
    ((∃ place typed error, (document.enter place typed).1 = .error error) ↔
      ∃ cell : CellRef, cell.IsLast ∧ cell.address ∈ document.graph.nodes) := by
  have h : document.Intact := hdocument ▸ intact_operated (intact_fresh limits) operations
  have hfresh : (fresh limits).ReadsNamed := Grid.readsNamed_of_graph_empty rfl
  have hnamed : document.ReadsNamed :=
    hdocument ▸ readsNamed_operated hfresh (intact_fresh limits) operations
  refine ⟨fun _ => address_of_mem_nodes h hnamed, h.cascade_eq_ok_iff, enter_fails_iff h,
    fun _ _ _ _ => interrupted_of_enter h, ?_, ?_⟩
  · rintro ⟨place, typed, hfail⟩
    obtain ⟨-, cell, hlast, hcell⟩ := (enter_fails_iff h place typed).mp hfail
    exact ⟨cell, hlast, mem_nodes_of_mem_allReaders h hcell⟩
  · rintro ⟨cell, hlast, hnode⟩
    obtain ⟨place, hread⟩ := exists_reads_of_last h hnamed hlast hnode
    -- Emptying the cell that is read closes no cycle, and comes to the last cell.
    have hdepends : cell.address ∈ document.graph.allReaders place.address :=
      (DependencyGraph.mem_allReaders h.coherent).mpr (.single hread)
    exact ⟨place, "", (enter_fails_iff h place "").mpr
      ⟨enter_blank_ne_rejected h place, cell, hlast, hdepends⟩⟩

/-- `B1` and a formula in the last column read `A1`, and `C1` reads `B1`. -/
def overreachingRun : List Operation :=
  [.enter ⟨0, 0⟩ "1", .enter ⟨0, 1⟩ "=A1", .enter ⟨0, 2⟩ "=B1", .enter lastColumn "=A1"]

set_option maxRecDepth 100000 in
/-- A change of `A1` is interrupted at the last column. -/
theorem overreachingRun_fails :
    (∃ error, (((fresh {}).operated overreachingRun).enter ⟨0, 0⟩ "2").1 = .error error) ∧
      ∃ cell : CellRef, (((fresh {}).operated overreachingRun).entered ⟨0, 0⟩
        (Cell.ofInput "2")).Interrupted ⟨0, 0⟩ cell
          (((fresh {}).operated overreachingRun).enter ⟨0, 0⟩ "2").2.toGrid := by
  obtain ⟨-, -, -, hdetails, -⟩ := enter_fails_iff_last_reader {} overreachingRun rfl
  have henter : (((fresh {}).operated overreachingRun).enter ⟨0, 0⟩ "2").1 =
      .error (.address ⟨.columnOverflow, lastColumn.address⟩) := by decide +kernel
  obtain ⟨cell, -, hstop⟩ := hdetails ⟨0, 0⟩ "2" _ _ (Prod.ext henter rfl)
  exact ⟨⟨_, henter⟩, cell, hstop⟩

set_option maxRecDepth 100000 in
/-- **A cascade can break off on an address.**  When `A1` changes from 1 to 2, the address of the
formula in the last column does not read back.  `B1` shows the new value by then, and `C1`, which
reads `B1`, still shows the old one. -/
theorem cascade_breaks_off :
    lastColumn.address ∈ ((fresh {}).operated overreachingRun).graph.nodes ∧
      CellRef.parse lastColumn.address = .error ⟨.columnOverflow, lastColumn.address⟩ ∧
      (((fresh {}).operated overreachingRun).enter ⟨0, 0⟩ "2").1 =
        .error (.address ⟨.columnOverflow, lastColumn.address⟩) ∧
      (((fresh {}).operated overreachingRun).enter ⟨0, 0⟩ "2").2.sheet.displayAt ⟨0, 1⟩ = "2" ∧
      (((fresh {}).operated overreachingRun).enter ⟨0, 0⟩ "2").2.sheet.displayAt ⟨0, 2⟩ = "1" ∧
      (((fresh {}).operated overreachingRun).enter ⟨0, 0⟩ "2").2.textFor "=B1" = "2" := by
  decide +kernel

end Document
end Gridcalc
