import Gridcalc.Proofs.Document.Edit

/-! # What a cascade leaves behind

After edits that were rejected, some cells have arrows that are not the references of their
formulas.  A later cascade takes those references in when it comes to such a cell, but the
order it follows was computed before.  So a cell may have its turn before a cell that it now
reads, and keeps the value from that moment.

This is all that can go wrong.  What depends on the edited cell in the end was on the agenda
(`Pass.mem_agenda_of_reads`), and every cell with its arrows in place shows its formula under
the lookup of its turn (`Pass.exists_turn`).  A cell whose arrows were in place before the
edit has no reference behind it (`not_behind_of_linked`), and is right.
-/
namespace Gridcalc

namespace Grid
open Relation
variable {start after : Grid} {place cell : CellRef} {formula a : String}

/-- **A pass finds no new dependents**: what leads to a node afterwards was on its agenda. -/
theorem Pass.mem_agenda_of_reads (h : start.Sound)
    (hpass : start.Pass (start.graph.agenda place.address) after)
    (hway : TransGen after.graph.Reads a place.address) :
    a ∈ start.graph.agenda place.address := by
  induction hway using TransGen.head_induction_on with
  | @single a hab =>
    by_contra hn
    rw [DependencyGraph.Reads, Adjacency.Arrow, hpass.kept a hn] at hab
    exact hn ((DependencyGraph.mem_agenda h.coherent h.acyclic).mpr (.single hab))
  | @head a b hab _ ih =>
    by_contra hn
    rw [DependencyGraph.Reads, Adjacency.Arrow, hpass.kept a hn] at hab
    exact hn ((DependencyGraph.mem_agenda h.coherent h.acyclic).mpr
      (.head hab ((DependencyGraph.mem_agenda h.coherent h.acyclic).mp ih)))

/-- A dependent with its arrows in place had a turn, and its references were taken in. -/
theorem Pass.exists_turn (h : start.Sound)
    (hpass : start.Pass (start.graph.agenda place.address) after)
    (hformula : after.sheet.formulaAt? cell = some formula)
    (hcell : TransGen after.graph.Reads cell.address place.address)
    (hlinked : after.Linked cell formula) :
    ∃ earlier later, start.graph.agenda place.address = earlier ++ cell.address :: later ∧
      start.Taken after cell formula later := by
  obtain ⟨earlier, later, hsplit⟩ := List.append_of_mem (hpass.mem_agenda_of_reads h hcell)
  rw [hpass.recalculated.formulaAt? cell] at hformula
  rcases hpass.visited cell formula earlier later hsplit hformula with htaken | hrefused
  · exact ⟨earlier, later, hsplit, htaken⟩
  · exact absurd hlinked hrefused.unlinked

/-- A cell with its arrows in place from the start has no reference behind it. -/
theorem not_behind_of_linked (h : start.Sound) {earlier later : List String}
    (hsplit : start.graph.agenda place.address = earlier ++ cell.address :: later)
    (hlinked : start.Linked cell formula) :
    ∀ a ∈ referencesOf formula, a ∉ later := by
  intro a ha hlater
  refine DependencyGraph.not_reads_behind (DependencyGraph.sorted_agenda h.coherent h.acyclic)
    hsplit hlater ?_
  show a ∈ start.graph.reads.targets cell.address
  rw [hlinked]
  exact ha

end Grid

namespace Document
variable {document after : Document} {place cell : CellRef} {address typed formula : String}
  {outcome : CellOutcome}

/-- What an accepted edit did. -/
theorem pass_of_enterAt (h : document.Sound) (hparse : CellRef.parse address = .ok place)
    (henter : document.enterAt address typed = (.ok outcome, after))
    (haccepted : ∀ error, outcome ≠ .rejected error) :
    (document.graph.rewire place.address (Cell.ofInput typed).references).Acyclic ∧
      (document.entered place (Cell.ofInput typed)).Pass
        ((document.entered place (Cell.ofInput typed)).graph.agenda place.address)
        after.toGrid := by
  rw [enterAt_of_parse hparse] at henter
  obtain ⟨ha, _, _, henter', -, hpass⟩ | ⟨error, henter'⟩ :=
    enter_cases h (CellRef.named_of_parse hparse) typed
  · obtain ⟨-, rfl⟩ := Prod.mk.inj (henter'.symm.trans henter)
    exact ⟨ha, hpass⟩
  · obtain ⟨houtcome, -⟩ := Prod.mk.inj (henter'.symm.trans henter)
    exact absurd (Except.ok.inj houtcome).symm (haccepted error)

/-- **What a cell that depends on an edited cell shows after the edit,** with any edits before
it.  If the arrows of the cell were in place before the edit, it shows its formula against the
sheet as it stands.  In general it shows what it did at its turn, when the cells behind it on
the agenda still showed what they had shown before.  So it is right exactly when these make
no difference. -/
theorem display_dependent (limits : Limits) (edits : List Edit) {before : Document}
    (hbefore : before = (fresh limits).edited edits)
    (hparse : CellRef.parse address = .ok place)
    (henter : before.enterAt address typed = (.ok outcome, after))
    (haccepted : ∀ error, outcome ≠ .rejected error)
    (hformula : after.sheet.formulaAt? cell = some formula)
    (hcell : cell.address ∈ after.graph.allReaders place.address)
    (hlinked : after.Linked cell formula) :
    (before.Linked cell formula → after.sheet.displayAt cell = after.textFor formula) ∧
    ∃ start earlier later, start = before.entered place (Cell.ofInput typed) ∧
      start.graph.agenda place.address = earlier ++ cell.address :: later ∧
      after.sheet.displayAt cell = start.textInTurn after.toGrid later formula ∧
      (after.sheet.displayAt cell = after.textFor formula ↔
        start.textInTurn after.toGrid later formula = after.textFor formula) := by
  obtain ⟨hsound, -⟩ := sound_edited (sound_fresh limits) edits
  rw [← hbefore] at hsound
  obtain ⟨ha, hpass⟩ := pass_of_enterAt hsound hparse henter haccepted
  have hstart := hsound.entered (CellRef.named_of_parse hparse) ha
  have hway := (DependencyGraph.mem_allReaders hpass.sound.coherent).mp hcell
  obtain ⟨earlier, later, hsplit, htaken⟩ := hpass.exists_turn hstart hformula hway hlinked
  have hshown := Sheet.displayAt_of_writeValue_eq htaken.shown
  refine ⟨fun hinplace => ?_, _, earlier, later, rfl, hsplit, hshown, by rw [hshown]⟩
  have hne : cell.address ≠ place.address := by
    intro he
    exact DependencyGraph.not_mem_agenda_self hstart.coherent hstart.acyclic
      (he ▸ hsplit ▸ List.mem_append_right _ List.mem_cons_self)
  have hstartlinked : (before.entered place (Cell.ofInput typed)).Linked cell formula := by
    rw [Grid.Linked, Grid.graph_entered, DependencyGraph.targets_rewire_of_ne hne, hinplace]
  rw [hshown]
  exact Grid.textInTurn_eq_textFor hpass.limits
    (Grid.not_behind_of_linked hstart hsplit hstartlinked)

/-- Edits of which the fourth is rejected: `B1` then holds a formula that reads `C1` and `A1`,
while its only arrow is the one to `A1` that it had before. -/
def overtakingEdits : List Edit :=
  [⟨"A1", "1"⟩, ⟨"B1", "=A1"⟩, ⟨"C1", "=B1"⟩, ⟨"B1", "=C1+A1"⟩, ⟨"C1", "=A1"⟩]

set_option maxRecDepth 100000 in
/-- After these edits `B1` has a turn when `A1` changes, and shows what it did at that turn. -/
theorem display_overtaken : ∃ after : Document, ∃ start earlier later,
    start = ((fresh {}).edited overtakingEdits).entered ⟨0, 0⟩ (Cell.ofInput "5") ∧
    start.graph.agenda (CellRef.address ⟨0, 0⟩) = earlier ++ CellRef.address ⟨0, 1⟩ :: later ∧
    after.sheet.displayAt ⟨0, 1⟩ = start.textInTurn after.toGrid later "=C1+A1" ∧
    (after.sheet.displayAt ⟨0, 1⟩ = after.textFor "=C1+A1" ↔
      start.textInTurn after.toGrid later "=C1+A1" = after.textFor "=C1+A1") := by
  have hparse : CellRef.parse "A1" = .ok ⟨0, 0⟩ := by decide +kernel
  have henter : ((fresh {}).edited overtakingEdits).enterAt "A1" "5" =
      (.ok .literal, (((fresh {}).edited overtakingEdits).enterAt "A1" "5").2) :=
    Prod.ext (by decide +kernel) rfl
  have hformula : (((fresh {}).edited overtakingEdits).enterAt "A1" "5").2.sheet.formulaAt?
      ⟨0, 1⟩ = some "=C1+A1" := by decide +kernel
  have h := display_dependent {} overtakingEdits rfl hparse henter nofun hformula
    (by decide +kernel) (by decide +kernel)
  exact ⟨_, h.2⟩

set_option maxRecDepth 100000 in
/-- **A cascade can leave a stale value behind.**  When `A1` changes from 1 to 5 after these
edits, `B1` shows 6, the new `A1` and the old `C1`, although its arrows are its references. -/
theorem cascade_overtakes : ¬ ∀ (limits : Limits) (edits : List Edit) (address typed : String)
    (place cell : CellRef) (outcome : CellOutcome) (after : Document) (formula : String),
    CellRef.parse address = .ok place →
    ((fresh limits).edited edits).enterAt address typed = (.ok outcome, after) →
    (∀ error, outcome ≠ .rejected error) →
    after.sheet.formulaAt? cell = some formula →
    cell.address ∈ after.graph.allReaders place.address →
    after.Linked cell formula →
    after.sheet.displayAt cell = after.textFor formula := by
  intro h
  have hright := h {} overtakingEdits "A1" "5" ⟨0, 0⟩ ⟨0, 1⟩ .literal
    (((fresh {}).edited overtakingEdits).enterAt "A1" "5").2 "=C1+A1" (by decide +kernel)
    (Prod.ext (by decide +kernel) rfl) nofun (by decide +kernel) (by decide +kernel)
    (by decide +kernel)
  exact absurd hright (by decide +kernel)

end Document
end Gridcalc
