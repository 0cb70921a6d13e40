import Gridcalc.Proofs.Document.Intact

/-! # Documents that are up to date

A grid is *current* when it is intact, every formula has its references for arrows, and every
formula shows its value against the sheet as it stands (`Grid.Current`).  Unlike a consistent grid
it may have formulas in cells whose addresses do not read back, so a cascade on it may stop early.

In the middle of a cascade some cells are still to come.  Calculating the first of them does not
move the graph and unsettles only what reads it, and all of that stands behind it on the list
(`DependencyGraph.ReadersFollow`).  So a cascade that goes through leaves no formula behind that is
not up to date (`Grid.Current.cascade`), and where all are up to date already, nothing is left for
a cascade to do, even if it stops (`Grid.Current.snd_cascade`).

A document is current after calls that end in nothing left open (`Document.endsCurrent`): since the
last calculation of the whole sheet, which rejected no formula, each edit was accepted and its
cascade went through (`Document.current_operated`).
-/
namespace Gridcalc

namespace DependencyGraph
variable {graph : DependencyGraph} {node : String}

/-- **Whatever reads an entry of the list stands behind it.** -/
def ReadersFollow (graph : DependencyGraph) (steps : List String) : Prop :=
  ∀ earlier a later, steps = earlier ++ a :: later → ∀ b, graph.Reads b a → b ∈ later

theorem ReadersFollow.head {a : String} {later : List String}
    (h : graph.ReadersFollow (a :: later)) : ∀ b, graph.Reads b a → b ∈ later :=
  h [] a later rfl

theorem ReadersFollow.tail {a : String} {later : List String}
    (h : graph.ReadersFollow (a :: later)) : graph.ReadersFollow later := by
  rintro earlier b rest rfl
  exact h (a :: earlier) b rest rfl

theorem readersFollow_agenda (hc : graph.Coherent) (ha : graph.Acyclic) :
    graph.ReadersFollow (graph.agenda node) := by
  intro earlier a later hsplit b hread
  have ha' : a ∈ graph.agenda node := hsplit ▸ List.mem_append_right _ List.mem_cons_self
  have hb : b ∈ graph.agenda node :=
    (mem_agenda hc ha).mpr (.head hread ((mem_agenda hc ha).mp ha'))
  have hsorted : (graph.agenda node).Pairwise fun a b => ¬ graph.Reads a b := sorted_agenda hc ha
  rw [hsplit] at hb hsorted
  rcases List.mem_append.mp hb with hearlier | hb
  · exact absurd hread ((List.pairwise_append.mp hsorted).2.2 b hearlier a List.mem_cons_self)
  rcases List.mem_cons.mp hb with rfl | hlater
  · exact absurd (.single hread) (ha b)
  · exact hlater

end DependencyGraph

namespace Grid
variable {grid after : Grid} {place : CellRef} {cell : Cell} {formula : String}
  {steps later : List String}

/-- **A grid in which all formulas are up to date but those of some cells still to come.**  All of
them have their references for arrows, and the others show their values. -/
structure Current (grid : Grid) (later : List String) : Prop extends grid.Intact where
  linked : ∀ (place : CellRef) (formula : String), grid.sheet.formulaAt? place = some formula →
    grid.Linked place formula
  settled : ∀ (place : CellRef) (formula : String), grid.sheet.formulaAt? place = some formula →
    place.address ∉ later → grid.Settled place formula

namespace Current

theorem reads_iff (h : grid.Current later) (hformula : grid.sheet.formulaAt? place = some formula)
    {a : String} : grid.graph.Reads place.address a ↔ a ∈ referencesOf formula := by
  rw [← h.linked place formula hformula]
  rfl

theorem not_mem_referencesOf (h : grid.Current later)
    (hformula : grid.sheet.formulaAt? place = some formula) :
    place.address ∉ referencesOf formula :=
  fun hmem => h.acyclic place.address (.single ((h.reads_iff hformula).mpr hmem))

/-! ### One cell -/

/-- Calculating a cell writes its value and does not move the graph. -/
theorem snd_calculateCell (h : grid.Current later)
    (hformula : grid.sheet.formulaAt? place = some formula) :
    (grid.calculateCell place).2 = grid.present place (grid.textFor formula) := by
  have hself := adopt_eq_self h.coherent (h.linked place formula hformula)
  have ha : (grid.adopt place formula).graph.Acyclic := by
    rw [hself]
    exact h.acyclic
  rw [calculateCell_accepted hformula ha, evaluateInto_snd, hself]

/-- **Calculating the first of the cells to come** leaves the others to come. -/
theorem calculateCell (h : grid.Current (place.address :: later))
    (hreaders : ∀ b, grid.graph.Reads b place.address → b ∈ later) :
    (grid.calculateCell place).2.graph = grid.graph ∧
      (grid.calculateCell place).2.Current later := by
  have hintact := h.toIntact.calculateCell place
  cases hformula : grid.sheet.formulaAt? place with
  | none =>
    rw [calculateCell_plain hformula]
    refine ⟨rfl, h.toIntact, h.linked, fun other formula hf hother => ?_⟩
    refine h.settled other formula hf fun hmem => ?_
    rcases List.mem_cons.mp hmem with he | hmem
    · rw [CellRef.address_injective he, hformula] at hf
      cases hf
    · exact hother hmem
  | some formula =>
    rw [h.snd_calculateCell hformula] at hintact ⊢
    refine ⟨rfl, hintact, fun other found hf => ?_, fun other found hf hother => ?_⟩
    · exact h.linked other found (Sheet.formulaAt?_writeValue.symm.trans hf)
    have hf' : grid.sheet.formulaAt? other = some found :=
      Sheet.formulaAt?_writeValue.symm.trans hf
    by_cases he : other = place
    · subst he
      obtain rfl := Option.some.inj (hformula.symm.trans hf')
      exact settled_present (h.not_mem_referencesOf hformula)
    · -- What is not to come does not read the cell, so it stays settled.
      have hread : place.address ∉ referencesOf found := fun hmem =>
        hother (hreaders _ ((h.reads_iff hf').mpr hmem))
      have hsettled : grid.Settled other found := by
        refine h.settled other found hf' fun hmem => ?_
        rcases List.mem_cons.mp hmem with hmem | hmem
        · exact he (CellRef.address_injective hmem)
        · exact hother hmem
      refine hsettled.congr rfl (Sheet.getElem?_writeValue_of_ne he) fun a ha hcanonical => ?_
      refine Sheet.lookup_writeValue hcanonical ?_
      rintro rfl
      exact hread ha

/-! ### One cell after another -/

/-- **A pass over the cells to come leaves none of them to come,** if it goes through. -/
theorem calculateInOrder (h : grid.Current steps) (hsteps : grid.graph.ReadersFollow steps)
    (haddress : ∀ a ∈ steps, ∃ cell : CellRef, cell.address = a)
    (hpass : Grid.calculateInOrder steps grid = (.ok (), after)) : after.Current [] := by
  induction steps generalizing grid with
  | nil =>
    obtain ⟨-, rfl⟩ := Prod.mk.inj hpass
    exact h
  | cons a rest ih =>
    obtain ⟨⟨cell, rfl⟩, hrest⟩ := List.forall_mem_cons.mp haddress
    rw [Grid.calculateInOrder] at hpass
    split at hpass
    · cases hpass
    · rename_i found hparse
      obtain rfl := CellRef.eq_of_parse_address hparse
      obtain ⟨hgraph, hnext⟩ := h.calculateCell hsteps.head
      exact ih hnext (hgraph ▸ hsteps.tail) hrest hpass

/-- **A cascade that goes through leaves all formulas up to date,** when those that do not depend
on its cell were up to date before. -/
theorem cascade (h : grid.Current (grid.graph.agenda place.address))
    (hcascade : grid.cascade place = (.ok (), after)) : after.Current [] := by
  obtain ⟨order, horder, -⟩ := DependencyGraph.exists_order h.coherent h.acyclic
  have hpass : Grid.calculateInOrder (grid.graph.agenda place.address) grid = (.ok (), after) := by
    rw [Grid.cascade, horder] at hcascade
    rw [DependencyGraph.agenda, horder]
    exact hcascade
  refine h.calculateInOrder (DependencyGraph.readersFollow_agenda h.coherent h.acyclic)
    (fun a ha => ?_) hpass
  have hway := (DependencyGraph.mem_agenda h.coherent h.acyclic).mp ha
  obtain ⟨b, hread, -⟩ := Relation.TransGen.head'_iff.mp hway
  obtain ⟨cell, -, -, he⟩ := h.source a b hread
  exact ⟨cell, he⟩

/-! ### Nothing to do -/

theorem snd_calculateCell_self (h : grid.Current []) (place : CellRef) :
    (grid.calculateCell place).2 = grid := by
  cases hformula : grid.sheet.formulaAt? place with
  | none => rw [calculateCell_plain hformula]
  | some formula =>
    have hsheet : grid.sheet.writeValue place (grid.textFor formula) = grid.sheet :=
      h.settled place formula hformula List.not_mem_nil
    rw [h.snd_calculateCell hformula, present, hsheet]

theorem snd_calculateInOrder (h : grid.Current []) (steps : List String) :
    (Grid.calculateInOrder steps grid).2 = grid := by
  induction steps with
  | nil => rfl
  | cons address rest ih =>
    rw [Grid.calculateInOrder]
    split
    · rfl
    · rw [h.snd_calculateCell_self, ih]

/-- **Where all formulas are up to date a cascade changes nothing,** also when it stops early. -/
theorem snd_cascade (h : grid.Current []) (place : CellRef) : (grid.cascade place).2 = grid := by
  rw [Grid.cascade]
  split
  · rfl
  · exact h.snd_calculateInOrder _

/-! ### Storing a cell -/

/-- **Once a cell is stored, only what depends on it is to come.** -/
theorem entered (h : grid.Current [])
    (ha : (grid.graph.rewire place.address cell.references).Acyclic)
    (hplain : cell.formula? = none → cell.Plain) :
    (grid.entered place cell).Current ((grid.entered place cell).graph.agenda place.address) := by
  have hintact := h.toIntact.entered ha hplain
  refine ⟨hintact, fun _ _ => linked_entered h.linked, fun other formula hf hother => ?_⟩
  refine settled_entered (fun place formula hf => h.settled place formula hf List.not_mem_nil) hf
    fun hmem => hother ?_
  refine (DependencyGraph.mem_agenda hintact.coherent hintact.acyclic).mpr (.single ?_)
  show place.address ∈ (grid.entered place cell).graph.reads.targets other.address
  rw [linked_entered h.linked hf]
  exact hmem

end Current

/-- **What a calculation of the whole sheet leaves behind is up to date,** if it rejected
nothing. -/
theorem Calculated.current (h : grid.Calculated after) (hintact : after.Intact)
    (hrejected : after.tally.rejected = 0) : after.Current [] where
  toIntact := hintact
  linked := fun _ _ => linked_of_tally_rejected hrejected
  settled := fun place formula hf _ => h.settled place formula
    ((h.recalculated.formulaAt? place).symm.trans hf) (linked_of_tally_rejected hrejected hf)

end Grid

/-! ### Calls -/

namespace Document
variable {document : Document} {place : CellRef} {typed : String} {outcome : CellOutcome}
  {summary : Summary}

theorem current_enter (h : document.Current [])
    (henter : (document.enter place typed).1 = .ok outcome)
    (haccepted : ∀ error, outcome ≠ .rejected error) :
    (document.enter place typed).2.Current [] := by
  by_cases ha : (document.graph.rewire place.address (Cell.ofInput typed).references).Acyclic
  · have hstart := h.entered ha Cell.plain_ofInput
    rw [enter_of_acyclic ha] at henter ⊢
    cases hcascade : (document.entered place (Cell.ofInput typed)).cascade place with
    | mk answer after =>
      rw [hcascade] at henter
      cases answer with
      | error error => cases henter
      | ok done => exact hstart.cascade hcascade
  · obtain ⟨error, hrejected⟩ := enter_rejected h.coherent ha h.acyclic
    rw [hrejected] at henter
    exact absurd (Except.ok.inj henter).symm (haccepted error)

theorem current_calculateAll (h : document.Intact) (hok : document.calculateAll.1 = .ok summary)
    (hrejected : summary.rejected = 0) : document.calculateAll.2.Current [] := by
  obtain ⟨after, hafter, hcalculated⟩ := Grid.exists_calculated h.coherent h.acyclic
  have hintact := h.calculateAll
  rw [hafter] at hintact
  have hcalculate : document.calculateAll = (.ok after.tally, document.withGrid after) := by
    rw [calculateAll, onGrid, hafter]
  rw [hcalculate] at hok ⊢
  obtain rfl := Except.ok.inj hok
  exact hcalculated.current hintact hrejected

theorem current_load {files : Files} {path : String} (h : document.Intact)
    (hok : (document.load files path).1 = .ok summary) (hrejected : summary.rejected = 0) :
    (document.load files path).2.Current [] := by
  have hintact := intact_load h files path
  obtain ⟨error, herror⟩ | ⟨sheet, hsheet⟩ := unreadable_or_holding files path
  · rw [load_of_unreadable herror] at hok
    cases hok
  · rw [load_of_holding hsheet] at hok hintact ⊢
    obtain rfl := Except.ok.inj hok
    exact calculated_loaded.current hintact hrejected

theorem snd_load_of_error {files : Files} {path : String} {error : DocumentError}
    (h : (document.load files path).1 = .error error) :
    (document.load files path).2 = document := by
  obtain ⟨found, hfound⟩ | ⟨sheet, hsheet⟩ := unreadable_or_holding files path
  · rw [load_of_unreadable hfound]
  · rw [load_of_holding hsheet] at h
    cases h

/-! ### Runs of calls -/

/-- Whether an edit was accepted and its change carried on to the end. -/
def wentThrough : Except DocumentError CellOutcome → Bool
  | .ok (.rejected _) | .error _ => false
  | .ok _ => true

/-- Whether a calculation of the whole sheet rejected nothing, and what counts for one that never
began. -/
def rejectedNothing (otherwise : Bool) : Except DocumentError Summary → Bool
  | .ok summary => summary.rejected == 0
  | .error _ => otherwise

/-- Whether every formula is up to date after a call, if `current` tells so of the document before
it.  An edit has to be accepted and to go through; a calculation of the whole sheet has to reject
nothing, and then it does not matter what was before it. -/
def leavesCurrent (document : Document) (current : Bool) : Operation → Bool
  | .enter place typed => current && wentThrough (document.enter place typed).1
  | .load files path => rejectedNothing current (document.load files path).1
  | .calculateAll => rejectedNothing false document.calculateAll.1

/-- Whether every formula is up to date after some calls: the last calculation of the whole sheet,
if there is one, rejected nothing, and since then each edit was accepted and went through. -/
def endsCurrent (document : Document) (current : Bool) : List Operation → Bool
  | [] => current
  | operation :: rest =>
    (document.operate operation).endsCurrent (document.leavesCurrent current operation) rest

theorem exists_of_wentThrough {answer : Except DocumentError CellOutcome}
    (h : wentThrough answer = true) :
    ∃ outcome, answer = .ok outcome ∧ ∀ error, outcome ≠ .rejected error := by
  rcases answer with error | _ | _ | _ | _
  · cases h
  · exact ⟨_, rfl, nofun⟩
  · exact ⟨_, rfl, nofun⟩
  · exact ⟨_, rfl, nofun⟩
  · cases h

/-- **One call leaves a document up to date** when it tells so. -/
theorem current_operate (h : document.Intact) {current : Bool}
    (hcurrent : current = true → document.Current []) (operation : Operation)
    (hleaves : document.leavesCurrent current operation = true) :
    (document.operate operation).Current [] := by
  cases operation with
  | enter place typed =>
    rw [leavesCurrent, Bool.and_eq_true] at hleaves
    obtain ⟨outcome, henter, haccepted⟩ := exists_of_wentThrough hleaves.2
    show (document.enter place typed).2.Current []
    exact current_enter (hcurrent hleaves.1) henter haccepted
  | load files path =>
    rw [leavesCurrent] at hleaves
    cases hload : (document.load files path).1 with
    | ok summary =>
      rw [hload] at hleaves
      exact current_load h hload (beq_iff_eq.mp hleaves)
    | error error =>
      rw [hload] at hleaves
      rw [operate, snd_load_of_error hload]
      exact hcurrent hleaves
  | calculateAll =>
    rw [leavesCurrent] at hleaves
    cases hcalculate : document.calculateAll.1 with
    | ok summary =>
      rw [hcalculate] at hleaves
      exact current_calculateAll h hcalculate (beq_iff_eq.mp hleaves)
    | error error =>
      rw [hcalculate] at hleaves
      cases hleaves

/-- **After calls that leave nothing open every formula is up to date.** -/
theorem current_operated (h : document.Intact) {current : Bool}
    (hcurrent : current = true → document.Current []) (operations : List Operation)
    (hends : document.endsCurrent current operations = true) :
    (document.operated operations).Current [] := by
  induction operations generalizing document current with
  | nil => exact hcurrent hends
  | cons operation rest ih =>
    exact ih (intact_operate h operation) (current_operate h hcurrent operation) hends

theorem current_fresh (limits : Limits) : (fresh limits).Current [] where
  toIntact := intact_fresh limits
  linked := (consistent_fresh limits).linked
  settled := fun place formula hf _ => (consistent_fresh limits).settled place formula hf

end Document
end Gridcalc
