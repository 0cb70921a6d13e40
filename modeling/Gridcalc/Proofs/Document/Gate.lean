import Gridcalc.Proofs.Dependency.Drain
import Gridcalc.Proofs.Document.Input
import Gridcalc.Proofs.Document.Intact
import Gridcalc.Proofs.Document.Loading

/-! # The gate in front of a cascade

A cascade needs an order of the whole graph, so a cycle anywhere blocks it, also one that has
nothing to do with the cell (`Grid.blocked_cascade_iff`).  It is blocked before it does anything.

Calculating a cell never comes to the gate with a cycle.  A graph that keeps a cycle rejects the
references of the cell first, and nothing is carried on then; a graph that loses its only cycle
with the old arrows of the cell accepts them, and has an order (`Grid.not_blocked_calculate`).
That searching for a cycle and counting towards an order agree on every graph is what makes the
two tests one.

Documents never get that far, since every call leaves a graph without cycles
(`Document.intact_run`).
-/
namespace Gridcalc

/-- The answer is that the dependents of a cell have no order of calculation. -/
def Blocked {α : Type} (answer : Except DocumentError α) : Prop :=
  ∃ cell, answer = .error (.blocked cell)

theorem not_blocked_ok {α : Type} (value : α) : ¬ Blocked (.ok value) := nofun

theorem blocked_map {α β : Type} {f : α → β} {answer : Except DocumentError α} :
    Blocked (answer.map f) ↔ Blocked answer := by
  cases answer with
  | error error => simp [Blocked, Except.map]
  | ok value => simp [Blocked, Except.map]

theorem DependencyGraph.Coherent.order?_eq_none_iff {graph : DependencyGraph}
    (hc : graph.Coherent) : graph.order? = none ↔ ¬ graph.Acyclic := by
  rw [Acyclic, ← Adjacency.cycle?_eq_none_iff]
  show _ ↔ ¬ graph.cycle? = none
  rw [← exists_order_iff hc, ← Option.ne_none_iff_exists', not_not]

namespace Grid
open Relation
variable {grid : Grid} {place : CellRef}

/-! ### One grid -/

theorem not_blocked_calculateInOrder (steps : List String) (grid : Grid) :
    ¬ Blocked (grid.calculateInOrder steps).1 := by
  induction steps generalizing grid with
  | nil => exact not_blocked_ok ()
  | cons address rest ih =>
    rw [calculateInOrder]
    split
    · rintro ⟨cell, hcell⟩
      cases hcell
    · exact ih _

section Coherent
variable (hc : grid.graph.Coherent)
include hc

/-- With a cycle in the graph a cascade does nothing. -/
theorem cascade_of_not_acyclic (h : ¬ grid.graph.Acyclic) :
    grid.cascade place = (.error (.blocked place.address), grid) := by
  simp only [cascade, hc.order?_eq_none_iff.mpr h]

/-- **A cascade is blocked exactly when there is a cycle anywhere in the graph.** -/
theorem blocked_cascade_iff : Blocked (grid.cascade place).1 ↔ ¬ grid.graph.Acyclic := by
  constructor
  · intro hblocked ha
    obtain ⟨order, horder, -⟩ := DependencyGraph.exists_order hc ha
    simp only [cascade, horder] at hblocked
    exact not_blocked_calculateInOrder _ _ hblocked
  · intro h
    rw [cascade_of_not_acyclic hc h]
    exact ⟨_, rfl⟩

/-- Once the references of a cell are accepted, there is no cycle in the graph. -/
theorem sound_of_calculateCell (hliteral : (grid.calculateCell place).1 ≠ .literal)
    (haccepted : ∀ error, (grid.calculateCell place).1 ≠ .rejected error) :
    (grid.calculateCell place).2.graph.Coherent ∧ (grid.calculateCell place).2.graph.Acyclic := by
  cases hformula : grid.sheet.formulaAt? place with
  | none =>
    rw [calculateCell_plain hformula] at hliteral
    exact absurd rfl hliteral
  | some formula =>
    by_cases ha : (grid.adopt place formula).graph.Acyclic
    · rw [calculateCell_accepted hformula ha, evaluateInto_snd]
      exact ⟨hc.rewire _ _, ha⟩
    · obtain ⟨error, herror⟩ := calculateCell_rejected hc hformula ha
      rw [herror] at haccepted
      exact absurd rfl (haccepted error)

/-- **Calculating a cell is never blocked,** with cycles or without. -/
theorem not_blocked_calculate : ¬ Blocked (grid.calculate place).1 := by
  obtain h | ⟨hliteral, haccepted, h⟩ := grid.calculate_cases place
  · rw [h]
    exact not_blocked_ok _
  · -- The search that accepted the references has seen the whole graph.
    obtain ⟨hcoherent, hacyclic⟩ := sound_of_calculateCell hc hliteral haccepted
    rw [h]
    show ¬ Blocked (((grid.calculateCell place).2.cascade place).1.map _)
    rw [blocked_map, blocked_cascade_iff hcoherent, not_not]
    exact hacyclic

end Coherent

theorem not_blocked_calculateAll (hc : grid.graph.Coherent) (ha : grid.graph.Acyclic) :
    ¬ Blocked grid.calculateAll.1 := by
  obtain ⟨after, hafter, -⟩ := exists_calculated hc ha
  rw [hafter]
  exact not_blocked_ok _

end Grid

/-! ### Documents -/

namespace Document
open Relation
variable {document : Document}

theorem not_blocked_enter (h : document.Intact) (place : CellRef) (typed : String) :
    ¬ Blocked (document.enter place typed).1 := by
  cases hformula : (Cell.ofInput typed).formula? with
  | some formula =>
    rw [enter_of_formula hformula]
    exact Grid.not_blocked_calculate h.coherent
  | none =>
    rw [enter_of_plain hformula]
    -- Here nothing is searched, but taking arrows away closes no cycle.
    have hcoherent := h.coherent.rewire place.address ∅
    show ¬ Blocked ((Grid.cascade { document.toGrid with
      sheet := document.sheet.insert place (Cell.ofInput typed)
      graph := document.graph.clearReads place.address } place).1.map _)
    rw [blocked_map, Grid.blocked_cascade_iff hcoherent, not_not]
    exact h.acyclic.clearReads

theorem not_blocked_enterAt (h : document.Intact) (address typed : String) :
    ¬ Blocked (document.enterAt address typed).1 := by
  rw [enterAt]
  split
  · exact not_blocked_enter h _ typed
  · rintro ⟨cell, hcell⟩
    cases hcell

theorem not_blocked_load (document : Document) (files : Files) (path : String) :
    ¬ Blocked (document.load files path).1 := by
  obtain ⟨error, herror⟩ | ⟨sheet, hsheet⟩ := unreadable_or_holding files path
  · rw [load_of_unreadable herror]
    rintro ⟨cell, hcell⟩
    obtain rfl := Except.error.inj hcell
    cases herror
  · rw [load_of_holding hsheet]
    exact not_blocked_ok _

/-- **The gate of a cascade is shut by a cycle anywhere, and calls never come to it then.**  On any
sheet and any coherent graph, with cycles or without, a cascade is blocked exactly when some
node leads back to itself, and then the grid is as it was; and calculating a cell is never
blocked.  After any calls, none of them and no calculation of the document is ever blocked. -/
theorem blocked_iff_cycle :
    (∀ grid : Grid, grid.graph.Coherent → ∀ place : CellRef,
      (Blocked (grid.cascade place).1 ↔ ∃ node, TransGen grid.graph.Reads node node) ∧
      (Blocked (grid.cascade place).1 →
        grid.cascade place = (.error (.blocked place.address), grid)) ∧
      ¬ Blocked (grid.calculate place).1) ∧
    ∀ (limits : Limits) (calls : List Call) (document : Document),
      document = (fresh limits).run calls →
      (∀ address typed, ¬ Blocked (document.enterAt address typed).1) ∧
      (∀ files path, ¬ Blocked (document.load files path).1) ∧
      ¬ Blocked document.calculateAll.1 ∧
      ∀ place : CellRef, ¬ Blocked (document.cascade place).1 ∧
        ¬ Blocked (document.calculate place).1 := by
  refine ⟨fun grid hc place => ⟨?_, fun hblocked => ?_, Grid.not_blocked_calculate hc⟩, ?_⟩
  · rw [Grid.blocked_cascade_iff hc]
    simp only [DependencyGraph.Acyclic, Adjacency.Acyclic, not_forall, not_not]
  · exact Grid.cascade_of_not_acyclic hc ((Grid.blocked_cascade_iff hc).mp hblocked)
  · rintro limits calls document rfl
    have h := intact_run (intact_fresh limits) calls
    refine ⟨not_blocked_enterAt h, not_blocked_load _, ?_, fun place => ⟨?_, ?_⟩⟩
    · exact Grid.not_blocked_calculateAll h.coherent h.acyclic
    · exact fun hblocked => (Grid.blocked_cascade_iff h.coherent).mp hblocked h.acyclic
    · exact Grid.not_blocked_calculate h.coherent

/-- Two cells that read each other, one of which holds a formula without references, and a cell
apart from them. -/
def knotted : Grid where
  sheet := .ofList ([(⟨0, 0⟩, .formula "=1"), (⟨0, 3⟩, .formula "=C1")] : List (CellRef × Cell))
  graph := .ofEdges [("A1", "B1"), ("B1", "A1"), ("D1", "C1")]

set_option maxRecDepth 100000 in
theorem knotted_blocked :
    knotted.cascade ⟨0, 2⟩ = (.error (.blocked "C1"), knotted) ∧
      (knotted.calculate ⟨0, 3⟩).1 = .ok (.rejected (.cycle ["A1", "B1", "A1"])) ∧
      (knotted.calculate ⟨0, 0⟩).1 = .ok (.computed "1") ∧
      ¬ Blocked (knotted.calculate ⟨0, 0⟩).1 ∧
      ¬ Blocked (((fresh {}).run loadedRun).cascade ⟨0, 0⟩).1 := by
  have hc : knotted.graph.Coherent := DependencyGraph.coherent_ofEdges _
  have haddress : (⟨0, 2⟩ : CellRef).address = "C1" := by decide +kernel
  have hfirst : knotted.graph.Reads "A1" "B1" := by
    show "B1" ∈ knotted.graph.reads.targets "A1"
    decide +kernel
  have hback : knotted.graph.Reads "B1" "A1" := by
    show "A1" ∈ knotted.graph.reads.targets "B1"
    decide +kernel
  obtain ⟨hany, hrun⟩ := blocked_iff_cycle
  obtain ⟨hiff, hkept, -⟩ := hany knotted hc ⟨0, 2⟩
  obtain ⟨-, -, -, hcalculations⟩ := hrun {} loadedRun _ rfl
  refine ⟨?_, by decide +kernel, by decide +kernel, (hany knotted hc ⟨0, 0⟩).2.2,
    (hcalculations ⟨0, 0⟩).1⟩
  rw [← haddress]
  exact hkept (hiff.mpr ⟨"A1", .tail (.single hfirst) hback⟩)

end Document
end Gridcalc
