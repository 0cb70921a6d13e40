import Gridcalc.Document.Grid
import Gridcalc.Proofs.Dependency.Readers
import Gridcalc.Proofs.Formula.References
import Gridcalc.Proofs.Sheet

/-! # Calculating one cell

A formula shows its value against what the cells show, or an error (`Grid.textFor`); either
way it depends on its references only (`Formula.shownText_congr`).  Calculating a cell is
one of three things: nothing without a formula, an error when its references would close a
cycle, and otherwise new arrows and that text (`Grid.calculateCell_plain`,
`Grid.calculateCell_rejected`, `Grid.calculateCell_accepted`).

A grid is *sound* when its graph is coherent and acyclic and only canonical addresses read
anything (`Grid.Sound`).  Nothing here supposes that the graph fits the formulas: after a
rejected edit it does not.
-/
namespace Gridcalc

/-- The text that a formula shows under a lookup: its value, or an error. -/
def Formula.shownText (limits : Limits) (lookup : Lookup) (formula : String) : String :=
  match Formula.evaluate limits lookup formula with
  | .ok value => value.display
  | .error _ => errorText

/-- What the calculation of a cell reports for an evaluation. -/
def CellOutcome.ofEvaluation : Except FormulaError Value → CellOutcome
  | .ok value => .computed value.display
  | .error error => .faulted error

namespace CellOutcome
variable {answer : Except FormulaError Value}

theorem ofEvaluation_ne_literal : ofEvaluation answer ≠ .literal := by
  cases answer <;> nofun

theorem ofEvaluation_ne_rejected {error : CycleError} : ofEvaluation answer ≠ .rejected error := by
  cases answer <;> nofun

theorem ofEvaluation_eq_computed {text : String} :
    ofEvaluation answer = .computed text ↔ ∃ value, answer = .ok value ∧ value.display = text := by
  cases answer <;> simp [ofEvaluation]

theorem ofEvaluation_eq_faulted {error : FormulaError} :
    ofEvaluation answer = .faulted error ↔ answer = .error error := by
  cases answer <;> simp [ofEvaluation]

end CellOutcome

namespace Grid

/-- **The text that a formula has to show** against the cells as they stand. -/
def textFor (grid : Grid) (formula : String) : String :=
  Formula.shownText grid.limits grid.sheet.lookup formula

/-- The formula shows this text, and its cell counts as calculated. -/
def Settled (grid : Grid) (place : CellRef) (formula : String) : Prop :=
  grid.sheet.writeValue place (grid.textFor formula) = grid.sheet

/-! ### References -/

theorem mem_referencesOf {formula a : String} :
    a ∈ referencesOf formula ↔ ∃ e, Formula.parse formula = .ok e ∧ a ∈ e.references := by
  unfold referencesOf Formula.references
  cases Formula.parse formula with
  | error fault => simp [Except.map, Except.toOption]
  | ok e => simp [Except.map, Except.toOption]

theorem canonical_of_mem_referencesOf {formula a : String} (h : a ∈ referencesOf formula) :
    Address.Canonical a := by
  obtain ⟨e, hparse, ha⟩ := mem_referencesOf.mp h
  exact Formula.canonical_of_mem_references hparse ha

end Grid

section Congruence
variable {limits : Limits} {l₁ l₂ : Lookup} {formula : String}

theorem Formula.evaluate_congr_of_referencesOf
    (h : ∀ a ∈ Grid.referencesOf formula, (l₁ a).getD "" = (l₂ a).getD "") :
    evaluate limits l₁ formula = evaluate limits l₂ formula :=
  evaluate_congr fun e hparse a ha => h a (Grid.mem_referencesOf.mpr ⟨e, hparse, ha⟩)

/-- **What a formula shows depends on what its references show.** -/
theorem Formula.shownText_congr
    (h : ∀ a ∈ Grid.referencesOf formula, (l₁ a).getD "" = (l₂ a).getD "") :
    shownText limits l₁ formula = shownText limits l₂ formula := by
  rw [shownText, shownText, evaluate_congr_of_referencesOf h]

end Congruence

namespace Grid
variable {grid after : Grid} {place : CellRef} {formula : String}

theorem shownText_congr_of_canonical {limits : Limits} {l₁ l₂ : Lookup}
    (h : ∀ a ∈ referencesOf formula, Address.Canonical a → l₁ a = l₂ a) :
    Formula.shownText limits l₁ formula = Formula.shownText limits l₂ formula :=
  Formula.shownText_congr fun a ha => by rw [h a ha (canonical_of_mem_referencesOf ha)]

/-- What a formula has to show is the same in two grids that agree on its references. -/
theorem textFor_congr (hlimits : after.limits = grid.limits)
    (h : ∀ a ∈ referencesOf formula, Address.Canonical a →
      after.sheet.lookup a = grid.sheet.lookup a) :
    after.textFor formula = grid.textFor formula := by
  rw [textFor, textFor, hlimits]
  exact shownText_congr_of_canonical h

theorem Settled.displayAt_eq (h : grid.Settled place formula) :
    grid.sheet.displayAt place = grid.textFor formula := Sheet.displayAt_of_writeValue_eq h

/-- A formula stays settled as long as its cell and what it reads do not change. -/
theorem Settled.congr (h : grid.Settled place formula) (hlimits : after.limits = grid.limits)
    (hcell : after.sheet[place]? = grid.sheet[place]?)
    (hreferences : ∀ a ∈ referencesOf formula, Address.Canonical a →
      after.sheet.lookup a = grid.sheet.lookup a) : after.Settled place formula := by
  rw [Settled, textFor_congr hlimits hreferences]
  exact Sheet.writeValue_eq_self_congr hcell h

/-- Writing what a formula has to show settles it, unless it reads its own cell. -/
theorem settled_present (hself : place.address ∉ referencesOf formula) :
    (grid.present place (grid.textFor formula)).Settled place formula := by
  have htext : (grid.present place (grid.textFor formula)).textFor formula =
      grid.textFor formula := by
    refine textFor_congr rfl fun a ha hcanonical => Sheet.lookup_writeValue hcanonical ?_
    rintro rfl
    exact hself ha
  rw [Settled, htext]
  exact Sheet.writeValue_writeValue_self _

/-! ### One calculation -/

theorem textFor_of_ok {value : Value} (h : grid.evaluate formula = .ok value) :
    grid.textFor formula = value.display := by
  unfold evaluate at h
  rw [textFor, Formula.shownText, h]

theorem textFor_of_error {error : FormulaError} (h : grid.evaluate formula = .error error) :
    grid.textFor formula = errorText := by
  unfold evaluate at h
  rw [textFor, Formula.shownText, h]

theorem evaluateInto_ok {value : Value} (h : grid.evaluate formula = .ok value) :
    grid.evaluateInto place formula =
      (.computed value.display, grid.present place (grid.textFor formula)) := by
  rw [evaluateInto, h, textFor_of_ok h]

theorem evaluateInto_error {error : FormulaError} (h : grid.evaluate formula = .error error) :
    grid.evaluateInto place formula =
      (.faulted error, grid.present place (grid.textFor formula)) := by
  rw [evaluateInto, h, textFor_of_error h]

theorem evaluateInto_eq : grid.evaluateInto place formula =
    (.ofEvaluation (grid.evaluate formula), grid.present place (grid.textFor formula)) := by
  cases h : grid.evaluate formula with
  | ok value => exact evaluateInto_ok h
  | error error => exact evaluateInto_error h

theorem evaluateInto_snd :
    (grid.evaluateInto place formula).2 = grid.present place (grid.textFor formula) := by
  rw [evaluateInto_eq]

/-- The grid with the references of a formula taken into the graph. -/
def adopt (grid : Grid) (place : CellRef) (formula : String) : Grid :=
  { grid with graph := grid.graph.rewire place.address (referencesOf formula) }

theorem textFor_adopt (other : String) :
    (grid.adopt place formula).textFor other = grid.textFor other := rfl

theorem calculateCell_plain (h : grid.sheet.formulaAt? place = none) :
    grid.calculateCell place = (.literal, grid) := by
  rw [calculateCell, h]

theorem calculateCell_accepted (h : grid.sheet.formulaAt? place = some formula)
    (ha : (grid.adopt place formula).graph.Acyclic) :
    grid.calculateCell place = (grid.adopt place formula).evaluateInto place formula := by
  rw [calculateCell, h]
  simp only [DependencyGraph.setReads_of_acyclic ha]
  rfl

theorem calculateCell_rejected (hc : grid.graph.Coherent)
    (h : grid.sheet.formulaAt? place = some formula)
    (hn : ¬ (grid.adopt place formula).graph.Acyclic) :
    ∃ error, grid.calculateCell place = (.rejected error, grid.present place errorText) := by
  obtain ⟨error, herror⟩ := DependencyGraph.setReads_of_not_acyclic hc hn
  refine ⟨error, ?_⟩
  rw [calculateCell, h]
  simp only [herror]

/-! ### Sound grids -/

/-- **A sound grid**: the graph is coherent and acyclic, and only canonical addresses read
anything. -/
structure Sound (grid : Grid) : Prop where
  coherent : grid.graph.Coherent
  acyclic : grid.graph.Acyclic
  canonical : ∀ a b, grid.graph.Reads a b → Address.Canonical a

theorem sound_of_empty (h : grid.graph = ∅) : grid.Sound where
  coherent := DependencyGraph.coherent_of_eq_empty h
  acyclic := DependencyGraph.acyclic_of_eq_empty h
  canonical := by
    intro a b hab
    rw [h] at hab
    exact absurd hab.mem Std.ExtTreeMap.not_mem_empty

theorem Sound.rewire (h : grid.Sound) (hplace : place.Named) {set : NodeSet}
    (ha : (grid.graph.rewire place.address set).Acyclic) :
    Sound { grid with graph := grid.graph.rewire place.address set } where
  coherent := h.coherent.rewire _ _
  acyclic := ha
  canonical := by
    intro a b hab
    by_cases he : a = place.address
    · exact he ▸ hplace.canonical
    · exact h.canonical a b ((DependencyGraph.reads_rewire_of_ne he).mp hab)

theorem Sound.present (h : grid.Sound) (place : CellRef) (text : String) :
    (grid.present place text).Sound := ⟨h.coherent, h.acyclic, h.canonical⟩

/-- **The arrows of a cell are the references of a formula.**  After a rejected edit they are
not those of the formula that the cell holds. -/
abbrev Linked (grid : Grid) (place : CellRef) (formula : String) : Prop :=
  grid.graph.reads.targets place.address = referencesOf formula

theorem linked_congr {other : Grid} (h : other.graph = grid.graph) :
    other.Linked place formula ↔ grid.Linked place formula := by
  rw [Linked, Linked, h]

/-- What a cell reads does not contain the cell when its arrows close no cycle. -/
theorem not_mem_referencesOf_of_acyclic (ha : (grid.adopt place formula).graph.Acyclic) :
    place.address ∉ referencesOf formula :=
  fun h => ha place.address (.single (DependencyGraph.reads_rewire_self.mpr h))

/-- A cell whose formula has its arrows already is accepted, and its arrows stay. -/
theorem adopt_eq_self (hc : grid.graph.Coherent)
    (h : grid.Linked place formula) :
    grid.adopt place formula = grid := by
  rw [adopt, hc.rewire_self h]

end Grid
end Gridcalc
