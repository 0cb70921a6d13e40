import Gridcalc.Proofs.Document.Cascade
import Gridcalc.Proofs.Document.WholeSheet

/-! # Consistent grids

As long as no formula is rejected, the graph is the one of the formulas (`Grid.Wired`) and
every formula shows its value against the sheet as it stands (`Grid.Consistent`).  An edit
that is accepted keeps this.  The cascade takes in references that are there already, so the
graph does not move and its agenda stays in order.  A cell on the agenda has no reference
behind it, and a cell that is not on the agenda reads nothing that changed.

Such a grid leaves no choice.  Its graph is determined by its formulas, and since arrows are
well-founded, what its cells show is determined by the formulas and the plain cells
(`Consistent.displayAt_eq`).  So it does not matter how it came about.
-/
namespace Gridcalc.Grid
open Relation
variable {grid start after : Grid} {place other : CellRef} {cell : Cell} {formula : String}

/-- **The graph is that of the formulas**, and all formulas are in cells with an address. -/
structure Wired (grid : Grid) : Prop where
  coherent : grid.graph.Coherent
  acyclic : grid.graph.Acyclic
  named : ∀ (place : CellRef) (formula : String), grid.sheet.formulaAt? place = some formula →
    place.Named
  linked : ∀ (place : CellRef) (formula : String), grid.sheet.formulaAt? place = some formula →
    grid.Linked place formula
  source : ∀ a b, grid.graph.Reads a b →
    ∃ place formula, grid.sheet.formulaAt? place = some formula ∧ place.address = a

/-- **Every formula is taken in and shows its value** against the sheet as it stands. -/
structure Consistent (grid : Grid) : Prop extends grid.Wired where
  settled : ∀ (place : CellRef) (formula : String), grid.sheet.formulaAt? place = some formula →
    grid.Settled place formula

theorem Wired.sound (h : grid.Wired) : grid.Sound where
  coherent := h.coherent
  acyclic := h.acyclic
  canonical := by
    intro a b hab
    obtain ⟨place, formula, hformula, rfl⟩ := h.source a b hab
    exact (h.named place formula hformula).canonical

theorem Wired.reads_iff (h : grid.Wired) (hformula : grid.sheet.formulaAt? place = some formula)
    {a : String} : grid.graph.Reads place.address a ↔ a ∈ referencesOf formula := by
  rw [← h.linked place formula hformula]
  rfl

/-- Where only formulas read anything, a cell without a formula reads nothing. -/
theorem targets_eq_empty (hsource : ∀ a b, grid.graph.Reads a b →
      ∃ place formula, grid.sheet.formulaAt? place = some formula ∧ place.address = a)
    (hplain : grid.sheet.formulaAt? place = none) :
    grid.graph.reads.targets place.address = ∅ := by
  refine Std.ExtTreeSet.ext_mem fun b => ⟨fun hb => ?_, fun hb =>
    absurd hb Std.ExtTreeSet.not_mem_empty⟩
  obtain ⟨cell, formula, hformula, he⟩ := hsource place.address b hb
  rw [CellRef.address_injective he, hplain] at hformula
  cases hformula

theorem consistent_of_empty (hsheet : grid.sheet = ∅) (hgraph : grid.graph = ∅) :
    grid.Consistent := by
  have hnone : ∀ place : CellRef, grid.sheet.formulaAt? place = none := by
    intro place
    rw [hsheet, Sheet.formulaAt?, Std.ExtTreeMap.getElem?_empty]
    rfl
  have hsound := sound_of_empty hgraph
  refine ⟨⟨hsound.coherent, hsound.acyclic, fun place formula hf => ?_, fun place formula hf => ?_,
    fun a b hab => ?_⟩, fun place formula hf => ?_⟩
  · rw [hnone] at hf
    cases hf
  · rw [hnone] at hf
    cases hf
  · rw [hgraph] at hab
    exact absurd hab.mem Std.ExtTreeMap.not_mem_empty
  · rw [hnone] at hf
    cases hf

/-! ### Storing a cell -/

theorem formulaAt?_entered :
    (grid.entered place cell).sheet.formulaAt? other =
      if other = place then cell.formula? else grid.sheet.formulaAt? other := by
  have hstored : (grid.entered place cell).sheet.formulaAt? other =
      Sheet.formulaAt? (grid.sheet.insert place cell) other := by
    unfold entered
    cases cell.formula? with
    | none => rfl
    | some formula => exact Sheet.formulaAt?_writeValue
  rw [hstored, Sheet.formulaAt?_insert]

theorem getElem?_entered_of_ne (h : other ≠ place) :
    (grid.entered place cell).sheet[other]? = grid.sheet[other]? := by
  have hinsert : (grid.sheet.insert place cell)[other]? = grid.sheet[other]? :=
    Sheet.getElem?_insert_of_ne h
  unfold entered
  cases cell.formula? with
  | none => exact hinsert
  | some formula => exact (Sheet.getElem?_writeValue_of_ne h).trans hinsert

/-- The arrows of the stored cell are replaced along with it. -/
theorem linked_entered (hlinked : ∀ (place : CellRef) (formula : String),
      grid.sheet.formulaAt? place = some formula → grid.Linked place formula)
    (hformula : (grid.entered place cell).sheet.formulaAt? other = some formula) :
    (grid.entered place cell).Linked other formula := by
  rw [formulaAt?_entered] at hformula
  rw [Linked, graph_entered]
  split at hformula
  · rename_i he
    rw [he, DependencyGraph.targets_rewire_self, Cell.references_of_formula? hformula]
  · rename_i hne
    rw [DependencyGraph.targets_rewire_of_ne fun he => hne (CellRef.address_injective he)]
    exact hlinked other formula hformula

theorem Wired.entered (h : grid.Wired) (hplace : place.Named)
    (ha : (grid.graph.rewire place.address cell.references).Acyclic) :
    (grid.entered place cell).Wired where
  coherent := graph_entered ▸ h.coherent.rewire _ _
  acyclic := graph_entered ▸ ha
  named := by
    intro other formula hf
    rw [formulaAt?_entered] at hf
    split at hf
    · rename_i he
      exact he ▸ hplace
    · exact h.named other formula hf
  linked := fun _ _ => linked_entered h.linked
  source := by
    intro a b hab
    rw [graph_entered] at hab
    by_cases he : a = place.address
    · rw [he, DependencyGraph.reads_rewire_self, Cell.references] at hab
      cases hf : cell.formula? with
      | none =>
        rw [hf] at hab
        exact absurd hab Std.ExtTreeSet.not_mem_empty
      | some formula =>
        refine ⟨place, formula, ?_, he.symm⟩
        rw [formulaAt?_entered, if_pos rfl, hf]
    · obtain ⟨other, formula, hf, rfl⟩ :=
        h.source a b ((DependencyGraph.reads_rewire_of_ne he).mp hab)
      refine ⟨other, formula, ?_, rfl⟩
      rw [formulaAt?_entered, if_neg, hf]
      rintro rfl
      exact he rfl

/-- Once a cell is stored, every formula that does not read it is settled. -/
theorem settled_entered (hsettled : ∀ (place : CellRef) (formula : String),
      grid.sheet.formulaAt? place = some formula → grid.Settled place formula)
    (hformula : (grid.entered place cell).sheet.formulaAt? other = some formula)
    (hread : place.address ∉ referencesOf formula) :
    (grid.entered place cell).Settled other formula := by
  rw [formulaAt?_entered] at hformula
  split at hformula
  · rename_i he
    subst he
    rw [Grid.entered, hformula]
    exact settled_present hread
  · rename_i hne
    refine (hsettled other formula hformula).congr limits_entered
      (getElem?_entered_of_ne hne) fun a ha hcanonical => ?_
    obtain ⟨target, hparse, rfl⟩ := hcanonical
    refine Sheet.lookup_congr hparse (getElem?_entered_of_ne ?_)
    rintro rfl
    exact hread ha

/-! ### Carrying a change on -/

/-- **On a wired grid a cascade does not move the graph.** -/
theorem Wired.graph_pass (h : start.Wired)
    (hpass : start.Pass (start.graph.agenda place.address) after) : after.graph = start.graph := by
  refine hpass.sound.coherent.ext h.coherent fun a => ?_
  by_cases ha : a ∈ start.graph.agenda place.address
  · obtain ⟨b, hb, -⟩ := TransGen.head'_iff.mp
      ((DependencyGraph.mem_agenda h.coherent h.acyclic).mp ha)
    obtain ⟨cell, formula, hformula, rfl⟩ := h.source a b hb
    obtain ⟨earlier, later, hsplit⟩ := List.append_of_mem ha
    -- Whether they were taken in or refused, the arrows are the references already.
    rcases hpass.visited cell formula earlier later hsplit hformula with htaken | hrefused
    · exact htaken.linked.trans (h.linked cell formula hformula).symm
    · exact hrefused.kept
  · exact hpass.kept a ha

theorem Wired.of_recalculated (h : start.Wired) (hgraph : after.graph = start.graph)
    (hsheet : Sheet.Recalculated start.sheet after.sheet) : after.Wired where
  coherent := hgraph ▸ h.coherent
  acyclic := hgraph ▸ h.acyclic
  named := fun place formula hf => h.named place formula ((hsheet.formulaAt? place).symm.trans hf)
  linked := by
    intro place formula hf
    rw [Linked, hgraph]
    exact h.linked place formula ((hsheet.formulaAt? place).symm.trans hf)
  source := by
    intro a b hab
    rw [hgraph] at hab
    obtain ⟨place, formula, hf, he⟩ := h.source a b hab
    exact ⟨place, formula, (hsheet.formulaAt? place).trans hf, he⟩

/-- **After a cascade every formula is settled,** when all that do not read the changed cell
were settled before it. -/
theorem Wired.consistent_pass (h : start.Wired)
    (hpass : start.Pass (start.graph.agenda place.address) after)
    (hsettled : ∀ (cell : CellRef) (formula : String),
      start.sheet.formulaAt? cell = some formula → place.address ∉ referencesOf formula →
      start.Settled cell formula) : after.Consistent where
  toWired := h.of_recalculated (h.graph_pass hpass) hpass.recalculated
  settled := by
    intro cell formula hformula
    rw [hpass.recalculated.formulaAt?] at hformula
    have hlinked := h.linked cell formula hformula
    by_cases hcell : cell.address ∈ start.graph.agenda place.address
    · obtain ⟨earlier, later, hsplit⟩ := List.append_of_mem hcell
      rcases hpass.visited cell formula earlier later hsplit hformula with htaken | hrefused
      · exact htaken.settled hpass.limits (not_behind_of_linked h.sound hsplit hlinked)
      · exact absurd (hrefused.kept.trans hlinked) hrefused.unlinked
    · -- A cell that is not on the agenda reads neither the changed cell nor one on the agenda.
      have hread : place.address ∉ referencesOf formula := by
        intro hmem
        exact hcell ((DependencyGraph.mem_agenda h.coherent h.acyclic).mpr
          (.single ((h.reads_iff hformula).mpr hmem)))
      have hagenda : ∀ a ∈ referencesOf formula, a ∉ start.graph.agenda place.address := by
        intro a ha hmem
        exact hcell ((DependencyGraph.mem_agenda h.coherent h.acyclic).mpr
          (.head ((h.reads_iff hformula).mpr ha)
            ((DependencyGraph.mem_agenda h.coherent h.acyclic).mp hmem)))
      exact (hsettled cell formula hformula hread).congr hpass.limits
        (hpass.untouched cell hcell) fun a ha hcanonical => hpass.lookup hcanonical (hagenda a ha)

/-! ### Calculating it again -/

/-- **A consistent grid is stable,** and calculating it rejects nothing. -/
theorem Consistent.stable (h : grid.Consistent) : grid.Stable where
  coherent := h.coherent
  acyclic := h.acyclic
  plain := by
    intro place cell hcell hf
    refine targets_eq_empty h.source ?_
    rw [Sheet.formulaAt?, hcell]
    exact hf
  settled := fun place formula hf _ => h.settled place formula hf
  rejected := fun place formula hf hn => absurd (h.linked place formula hf) hn

theorem Consistent.tally_rejected (h : grid.Consistent) : grid.tally.rejected = 0 := by
  refine List.countP_eq_zero.mpr fun entry hentry => ?_
  have hlinked := h.linked entry.1 entry.2 (Sheet.mem_formulas.mp hentry)
  simpa using hlinked

/-- What is calculated from an empty graph without a rejection is consistent. -/
theorem Calculated.consistent (h : grid.Calculated after) (hempty : grid.graph = ∅)
    (hnamed : ∀ (place : CellRef) (formula : String), grid.sheet.formulaAt? place = some formula →
      place.Named) (hrejected : after.tally.rejected = 0) : after.Consistent := by
  have hc := DependencyGraph.coherent_of_eq_empty hempty
  have ha := DependencyGraph.acyclic_of_eq_empty hempty
  have hstable := h.stable hempty
  have hlinked : ∀ place formula, after.sheet.formulaAt? place = some formula →
      after.Linked place formula := fun _ _ hf => linked_of_tally_rejected hrejected hf
  refine ⟨⟨hstable.coherent, hstable.acyclic, fun place formula hf => ?_, hlinked,
    fun a b hab => ?_⟩, fun place formula hf => ?_⟩
  · rw [h.recalculated.formulaAt?] at hf
    exact hnamed place formula hf
  · rw [h.graph] at hab
    obtain ⟨entry, hentry, he, -⟩ :=
      (Linking.reads_iff_of_links (links_link hc ha) hempty rfl).mp hab
    obtain ⟨hf, -⟩ := (mem_accepted hc ha).mp hentry
    exact ⟨entry.1, entry.2, (h.recalculated.formulaAt? _).trans hf, he⟩
  · exact hstable.settled place formula hf (hlinked place formula hf)

/-! ### There is one way to be consistent -/

section Unique
variable {first second : Grid}

/-- **The graph is determined by the formulas.** -/
theorem Wired.graph_eq (h₁ : first.Wired) (h₂ : second.Wired)
    (hformulas : ∀ place, first.sheet.formulaAt? place = second.sheet.formulaAt? place) :
    first.graph = second.graph := by
  have htargets : ∀ {grid other : Grid}, grid.Wired → other.Wired →
      (∀ place, grid.sheet.formulaAt? place = other.sheet.formulaAt? place) →
      ∀ a b, grid.graph.Reads a b → other.graph.Reads a b := by
    intro grid other hgrid hother hsame a b hab
    obtain ⟨place, formula, hf, rfl⟩ := hgrid.source a b hab
    exact (hother.reads_iff ((hsame place).symm.trans hf)).mpr ((hgrid.reads_iff hf).mp hab)
  refine h₁.coherent.ext_reads h₂.coherent fun a b => ?_
  exact ⟨htargets h₁ h₂ hformulas a b, htargets h₂ h₁ (fun place => (hformulas place).symm) a b⟩

/-- **What the cells show is determined by the formulas and the plain cells.** -/
theorem Consistent.displayAt_eq (h₁ : first.Consistent) (h₂ : second.Consistent)
    (hlimits : first.limits = second.limits)
    (hformulas : ∀ place, first.sheet.formulaAt? place = second.sheet.formulaAt? place)
    (hplain : ∀ place : CellRef, first.sheet.formulaAt? place = none →
      first.sheet.displayAt place = second.sheet.displayAt place) (place : CellRef) :
    first.sheet.displayAt place = second.sheet.displayAt place := by
  -- By induction along the arrows: a cell shows the same once all that it reads does.
  have hall : ∀ a (place : CellRef), place.address = a →
      first.sheet.displayAt place = second.sheet.displayAt place := by
    intro a
    induction a using h₁.acyclic.wellFounded.induction with
    | _ a ih =>
      rintro place rfl
      cases hf : first.sheet.formulaAt? place with
      | none => exact hplain place hf
      | some formula =>
        have hf' := (hformulas place).symm.trans hf
        rw [(h₁.settled place formula hf).displayAt_eq, (h₂.settled place formula hf').displayAt_eq,
          textFor, textFor, hlimits]
        refine Formula.shownText_congr fun a ha => ?_
        obtain ⟨target, hparse, rfl⟩ := canonical_of_mem_referencesOf ha
        rw [Sheet.getD_lookup hparse, Sheet.getD_lookup hparse]
        exact ih target.address ((h₁.reads_iff hf).mpr ha) target rfl
  exact hall place.address place rfl

end Unique
end Gridcalc.Grid
