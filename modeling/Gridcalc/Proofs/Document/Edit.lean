import Gridcalc.Proofs.Document.Input
import Gridcalc.Proofs.Document.Pass

/-! # Edits

An edit stores the cell, replaces its arrows, shows its value, and carries the change on.
Up to the last step it leads to one grid, whatever was entered (`Grid.entered`); the last
step is a pass over the agenda of that grid (`Document.enter_accepted`).  An edit whose
arrows would close a cycle stores the cell and shows an error, but leaves the graph as it
was and carries nothing on (`Document.enter_rejected`).  From then on the arrows of the cell
are not the references of its formula.

Either way a sound document stays sound, through any run of edits (`Document.sound_edited`).
-/
namespace Gridcalc

/-- The cells that a cell reads. -/
def Cell.references (cell : Cell) : NodeSet := cell.formula?.elim ∅ Grid.referencesOf

theorem Cell.references_of_formula? {cell : Cell} {formula : String}
    (h : cell.formula? = some formula) : cell.references = Grid.referencesOf formula := by
  rw [references, h]
  rfl

/-- Only a formula can close a cycle. -/
theorem Cell.exists_formula?_of_not_acyclic {cell : Cell} {graph : DependencyGraph} {node : String}
    (h : graph.Acyclic) (ha : ¬ (graph.rewire node cell.references).Acyclic) :
    ∃ formula, cell.formula? = some formula := by
  cases hformula : cell.formula? with
  | none =>
    rw [references, hformula] at ha
    exact absurd h.clearReads ha
  | some formula => exact ⟨formula, rfl⟩

theorem Sheet.formulaAt?_insert_self {sheet : Sheet} {place : CellRef} {cell : Cell} :
    formulaAt? (sheet.insert place cell) place = cell.formula? := by
  rw [formulaAt?_insert, if_pos rfl]

namespace Grid
variable {grid : Grid} {place : CellRef} {cell : Cell} {formula : String}

/-- The grid with a cell stored and its references taken into the graph. -/
def stored (grid : Grid) (place : CellRef) (cell : Cell) : Grid :=
  { grid with
    sheet := grid.sheet.insert place cell
    graph := grid.graph.rewire place.address cell.references }

/-- **The grid of an edit before the change is carried on**: the cell is stored, and shows its
formula if it has one. -/
def entered (grid : Grid) (place : CellRef) (cell : Cell) : Grid :=
  match cell.formula? with
  | none => grid.stored place cell
  | some formula =>
    (grid.stored place cell).present place ((grid.stored place cell).textFor formula)

theorem graph_entered :
    (grid.entered place cell).graph = grid.graph.rewire place.address cell.references := by
  unfold entered
  cases cell.formula? <;> rfl

theorem limits_entered : (grid.entered place cell).limits = grid.limits := by
  unfold entered
  cases cell.formula? <;> rfl

theorem Sound.entered (h : grid.Sound) (hplace : place.Named)
    (ha : (grid.graph.rewire place.address cell.references).Acyclic) :
    (grid.entered place cell).Sound := by
  have hrewire := h.rewire hplace ha
  refine ⟨?_, ?_, ?_⟩ <;> rw [graph_entered]
  · exact hrewire.coherent
  · exact hrewire.acyclic
  · exact hrewire.canonical

/-- Storing a cell makes no difference to a formula that does not read it. -/
theorem evaluate_stored (hread : place.address ∉ referencesOf formula) :
    (grid.stored place cell).evaluate formula = grid.evaluate formula := by
  refine Formula.evaluate_congr_of_referencesOf fun a ha => ?_
  have hne : a ≠ place.address := by
    rintro rfl
    exact hread ha
  rw [stored, Sheet.lookup_insert (canonical_of_mem_referencesOf ha) hne]

theorem textFor_stored (hread : place.address ∉ referencesOf formula) :
    (grid.stored place cell).textFor formula = grid.textFor formula := by
  cases h : grid.evaluate formula with
  | ok value => rw [textFor_of_ok h, textFor_of_ok ((evaluate_stored hread).trans h)]
  | error error => rw [textFor_of_error h, textFor_of_error ((evaluate_stored hread).trans h)]

/-- What is reported for a cell that is entered and not rejected. -/
def outcomeFor (grid : Grid) (cell : Cell) : CellOutcome :=
  cell.formula?.elim .literal fun formula => .ofEvaluation (grid.evaluate formula)

theorem outcomeFor_of_formula? (h : cell.formula? = some formula) :
    grid.outcomeFor cell = .ofEvaluation (grid.evaluate formula) := by
  rw [outcomeFor, h]
  rfl

theorem outcomeFor_ne_rejected {error : CycleError} : grid.outcomeFor cell ≠ .rejected error := by
  rw [outcomeFor]
  cases cell.formula? with
  | none => nofun
  | some formula => exact CellOutcome.ofEvaluation_ne_rejected

/-- A stored formula that closes no cycle is evaluated against what was there before. -/
theorem calculateCell_insert (hcell : cell.formula? = some formula)
    (ha : (grid.graph.rewire place.address cell.references).Acyclic) :
    calculateCell { grid with sheet := grid.sheet.insert place cell } place =
      (grid.outcomeFor cell, grid.entered place cell) := by
  rw [Cell.references_of_formula? hcell] at ha
  have hstep : calculateCell { grid with sheet := grid.sheet.insert place cell } place =
      (grid.stored place cell).evaluateInto place formula := by
    rw [stored, Cell.references_of_formula? hcell]
    exact calculateCell_accepted (Sheet.formulaAt?_insert_self.trans hcell) ha
  rw [hstep, evaluateInto_eq, evaluate_stored (not_mem_referencesOf_of_acyclic ha),
    outcomeFor_of_formula? hcell, entered, hcell]

/-- A stored formula that closes no cycle is computed, and the change is carried on. -/
theorem calculate_insert (hcell : cell.formula? = some formula)
    (ha : (grid.graph.rewire place.address cell.references).Acyclic) :
    calculate { grid with sheet := grid.sheet.insert place cell } place =
      ((grid.entered place cell).cascade place).map (·.map fun _ => grid.outcomeFor cell) id := by
  have hstep := calculateCell_insert hcell ha
  have hliteral : grid.outcomeFor cell ≠ .literal := by
    rw [outcomeFor_of_formula? hcell]
    exact CellOutcome.ofEvaluation_ne_literal
  have hcascade := calculate_of_evaluated
    { grid with sheet := grid.sheet.insert place cell } place
  rw [hstep] at hcascade
  exact hcascade hliteral fun _ => outcomeFor_ne_rejected

/-- A stored formula that would close a cycle shows an error, and nothing follows. -/
theorem calculate_rejected (grid : Grid) (hc : grid.graph.Coherent)
    (hformula : grid.sheet.formulaAt? place = some formula)
    (ha : ¬ (grid.adopt place formula).graph.Acyclic) :
    ∃ error, grid.calculate place = (.ok (.rejected error), grid.present place errorText) := by
  obtain ⟨error, hcell⟩ := calculateCell_rejected hc hformula ha
  exact ⟨error, by simp only [calculate, hcell]⟩

end Grid

namespace Document
variable {document : Document} {place : CellRef} {typed : String}

/-- **An edit that closes no cycle is a cascade** on the grid that it leads to. -/
theorem enter_of_acyclic
    (ha : (document.graph.rewire place.address (Cell.ofInput typed).references).Acyclic) :
    document.enter place typed =
      ((document.entered place (Cell.ofInput typed)).cascade place).map
        (·.map fun _ => document.outcomeFor (Cell.ofInput typed))
        fun grid => { document with toGrid := grid, modified := true } := by
  cases hformula : (Cell.ofInput typed).formula? with
  | none =>
    have hentered : document.entered place (Cell.ofInput typed) = { document.toGrid with
        sheet := document.sheet.insert place (Cell.ofInput typed)
        graph := document.graph.clearReads place.address } := by
      rw [Grid.entered, hformula, Grid.stored, Cell.references, hformula]
      rfl
    rw [enter_of_plain hformula, hentered, Grid.outcomeFor, hformula]
    simp only [cascade, onGrid]
    generalize Grid.cascade _ place = result
    rfl
  | some formula =>
    rw [enter_of_formula hformula, calculate, onGrid]
    have hcalculate := Grid.calculate_insert hformula ha
    simp only [hcalculate]
    generalize Grid.cascade _ place = result
    rfl

/-- **An edit that closes no cycle is accepted,** and a pass over the agenda follows. -/
theorem enter_accepted (h : document.Sound) (hplace : place.Named)
    (ha : (document.graph.rewire place.address (Cell.ofInput typed).references).Acyclic) :
    ∃ outcome after, document.enter place typed = (.ok outcome, after) ∧
      (∀ error, outcome ≠ .rejected error) ∧
      (document.entered place (Cell.ofInput typed)).Pass
        ((document.entered place (Cell.ofInput typed)).graph.agenda place.address)
        after.toGrid := by
  obtain ⟨after, hcascade, hpass⟩ := Grid.exists_cascade (h.entered hplace ha) place
  refine ⟨document.outcomeFor (Cell.ofInput typed),
    { document with toGrid := after, modified := true }, ?_,
    fun _ => Grid.outcomeFor_ne_rejected, hpass⟩
  rw [enter_of_acyclic ha, hcascade]
  rfl

/-- A rejected edit would have closed a cycle. -/
theorem not_acyclic_of_rejected {error : CycleError}
    (h : (document.enter place typed).1 = .ok (.rejected error)) :
    ¬ (document.graph.rewire place.address (Cell.ofInput typed).references).Acyclic := by
  intro ha
  rw [enter_of_acyclic ha, Prod.map_fst] at h
  exact Grid.outcomeFor_ne_rejected (eq_of_map_const_eq_ok h)

/-- **An edit that would close a cycle stores the cell with an error** and keeps the graph. -/
theorem enter_rejected (hc : document.graph.Coherent)
    (ha : ¬ (document.graph.rewire place.address (Cell.ofInput typed).references).Acyclic)
    (hacyclic : document.graph.Acyclic) :
    ∃ error, document.enter place typed = (.ok (.rejected error),
      { document with
        sheet := Sheet.writeValue (document.sheet.insert place (Cell.ofInput typed)) place errorText
        modified := true }) := by
  obtain ⟨formula, hformula⟩ := Cell.exists_formula?_of_not_acyclic hacyclic ha
  rw [Cell.references_of_formula? hformula] at ha
  obtain ⟨error, hcalculate⟩ := Grid.calculate_rejected
    { document.toGrid with sheet := document.sheet.insert place (Cell.ofInput typed) }
    hc (Sheet.formulaAt?_insert_self.trans hformula) ha
  refine ⟨error, ?_⟩
  rw [enter_of_formula hformula]
  simp only [calculate, onGrid, withGrid, hcalculate, Grid.present]

/-- **An edit of a sound document** is accepted and a pass over the agenda follows, or its arrows
would close a cycle and it is rejected. -/
theorem enter_cases (h : document.Sound) (hplace : place.Named) (typed : String) :
    ((document.graph.rewire place.address (Cell.ofInput typed).references).Acyclic ∧
      ∃ outcome after, document.enter place typed = (.ok outcome, after) ∧
        (∀ error, outcome ≠ .rejected error) ∧
        (document.entered place (Cell.ofInput typed)).Pass
          ((document.entered place (Cell.ofInput typed)).graph.agenda place.address)
          after.toGrid) ∨
    ∃ error, document.enter place typed = (.ok (.rejected error),
      { document with
        sheet := Sheet.writeValue (document.sheet.insert place (Cell.ofInput typed)) place errorText
        modified := true }) := by
  by_cases ha : (document.graph.rewire place.address (Cell.ofInput typed).references).Acyclic
  · exact Or.inl ⟨ha, enter_accepted h hplace ha⟩
  · exact Or.inr (enter_rejected h.coherent ha h.acyclic)

/-! ### Runs of edits -/

theorem enterAt_of_parse {address : String} (h : CellRef.parse address = .ok place) :
    document.enterAt address typed = document.enter place typed := by
  simp only [enterAt, h]

/-- **An edit of a sound document goes through,** if its cell has an address. -/
theorem exists_outcome_enterAt (h : document.Sound) {address : String}
    (hparse : CellRef.parse address = .ok place) (typed : String) :
    ∃ outcome, (document.enterAt address typed).1 = .ok outcome := by
  rw [enterAt_of_parse hparse]
  obtain ⟨-, outcome, after, henter, -⟩ | ⟨error, henter⟩ :=
    enter_cases h (CellRef.named_of_parse hparse) typed
  · exact ⟨outcome, by rw [henter]⟩
  · exact ⟨_, by rw [henter]⟩

/-- An edit keeps a document sound and its limits as they are. -/
theorem sound_enterAt (h : document.Sound) (address typed : String) :
    (document.enterAt address typed).2.Sound ∧
      (document.enterAt address typed).2.limits = document.limits := by
  cases hparse : CellRef.parse address with
  | error error =>
    simp only [enterAt, hparse]
    exact ⟨h, trivial⟩
  | ok place =>
    rw [enterAt_of_parse hparse]
    obtain ⟨-, outcome, after, henter, -, hpass⟩ | ⟨error, henter⟩ :=
      enter_cases h (CellRef.named_of_parse hparse) typed
    · rw [henter]
      exact ⟨hpass.sound, hpass.limits.trans Grid.limits_entered⟩
    · rw [henter]
      exact ⟨⟨h.coherent, h.acyclic, h.canonical⟩, rfl⟩

/-- A document in which nothing was entered. -/
def fresh (limits : Limits) : Document := { limits := limits }

/-- A text entered into the cell of an address. -/
structure Edit where
  address : String
  typed : String

/-- The document after some edits, each accepted or rejected. -/
def edited (document : Document) (edits : List Edit) : Document :=
  edits.foldl (fun document edit => (document.enterAt edit.address edit.typed).2) document

theorem edited_append (document : Document) (earlier later : List Edit) :
    document.edited (earlier ++ later) = (document.edited earlier).edited later :=
  List.foldl_append

/-- **Edits keep a document sound,** also those that are rejected. -/
theorem sound_edited (h : document.Sound) (edits : List Edit) :
    (document.edited edits).Sound ∧ (document.edited edits).limits = document.limits := by
  induction edits generalizing document with
  | nil => exact ⟨h, rfl⟩
  | cons edit rest ih =>
    obtain ⟨hsound, hlimits⟩ := sound_enterAt h edit.address edit.typed
    obtain ⟨hrest, hrest'⟩ := ih hsound
    exact ⟨hrest, hrest'.trans hlimits⟩

theorem sound_fresh (limits : Limits) : (fresh limits).Sound := Grid.sound_of_empty rfl

end Document
end Gridcalc
