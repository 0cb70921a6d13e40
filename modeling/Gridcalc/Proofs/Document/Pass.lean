import Gridcalc.Proofs.Document.Cell

/-! # Passes over a list of cells

A cascade computes its list of cells once, from the graph as it is at that moment
(`DependencyGraph.agenda`), and then calculates them one after another.  Each calculation may
replace the arrows of its cell, so the list need not be an order of the graph that is there
in the end.

`Grid.Pass` says what such a pass leaves behind without supposing that it is one.  A cell
whose references were taken in shows its formula under a mixed lookup: the cells behind it in
the list still show what they did before the pass, all others what they show after it
(`Sheet.lookupBetween`, `Grid.textInTurn`).  When no reference stands behind the cell, that is
what it has to show in the end as well (`Grid.textInTurn_eq_textFor`).
-/
namespace Gridcalc

/-! ### The list of a cascade -/

namespace DependencyGraph
open Relation
variable {graph : DependencyGraph} {node a : String}

/-- **The cells that a change of a node is carried on to,** in their turn. -/
def agenda (graph : DependencyGraph) (node : String) : List String :=
  (graph.order?.getD []).filter (graph.allReaders node).contains

theorem mem_agenda (hc : graph.Coherent) (ha : graph.Acyclic) :
    a ∈ graph.agenda node ↔ TransGen graph.Reads a node := by
  obtain ⟨order, horder, h⟩ := exists_order hc ha
  rw [agenda, horder, Option.getD_some, List.mem_filter, h.mem_iff,
    Std.ExtTreeSet.contains_iff_mem, mem_allReaders hc]
  constructor
  · exact And.right
  · intro hway
    obtain ⟨b, hb, -⟩ := TransGen.head'_iff.mp hway
    exact ⟨hc.mem_nodes.mpr ⟨b, Or.inl hb⟩, hway⟩

theorem nodup_agenda (hc : graph.Coherent) (ha : graph.Acyclic) : (graph.agenda node).Nodup := by
  obtain ⟨order, horder, h⟩ := exists_order hc ha
  rw [agenda, horder]
  exact h.nodup.filter _

/-- No cell of the list comes before one that it reads. -/
theorem sorted_agenda (hc : graph.Coherent) (ha : graph.Acyclic) :
    (graph.agenda node).Pairwise fun a b => ¬ graph.Reads a b := by
  obtain ⟨order, horder, h⟩ := exists_order hc ha
  rw [agenda, horder]
  exact h.sorted.filter _

theorem not_mem_agenda_self (hc : graph.Coherent) (ha : graph.Acyclic) :
    node ∉ graph.agenda node :=
  fun h => ha node ((mem_agenda hc ha).mp h)

/-- In a sorted list a node reads nothing that stands behind it. -/
theorem not_reads_behind {list earlier later : List String} {b : String}
    (hsorted : list.Pairwise fun a b => ¬ graph.Reads a b) (h : list = earlier ++ a :: later)
    (hb : b ∈ later) : ¬ graph.Reads a b := by
  rw [h] at hsorted
  exact List.rel_of_pairwise_cons (List.pairwise_append.mp hsorted).2.1 hb

end DependencyGraph

/-! ### Passes -/

/-- What a lookup finds in the middle of a pass: what is still to come shows what it showed
before the pass, everything else what it shows after it. -/
def Sheet.lookupBetween (before after : Sheet) (later : List String) : Lookup :=
  fun a => if a ∈ later then before.lookup a else after.lookup a

namespace Grid
variable {grid after middle : Grid} {place : CellRef} {formula a : String}
  {steps earlier later : List String}

/-- The text that a formula shows at its turn in a pass, with some cells still to come. -/
def textInTurn (grid after : Grid) (later : List String) (formula : String) : String :=
  Formula.shownText grid.limits (grid.sheet.lookupBetween after.sheet later) formula

/-- The references of a formula were taken into the graph, and the cell shows what it did at
its turn. -/
structure Taken (grid after : Grid) (place : CellRef) (formula : String)
    (later : List String) : Prop where
  linked : after.Linked place formula
  shown : after.sheet.writeValue place (grid.textInTurn after later formula) = after.sheet

/-- The references of a formula were refused, and the cell shows an error. -/
structure Refused (grid after : Grid) (place : CellRef) (formula : String) : Prop where
  kept : after.graph.reads.targets place.address = grid.graph.reads.targets place.address
  unlinked : ¬ after.Linked place formula
  shown : after.sheet.writeValue place errorText = after.sheet

/-! ### One cell -/

/-- **What the calculation of one cell leaves behind.** -/
structure Step (grid : Grid) (place : CellRef) (after : Grid) : Prop where
  limits : after.limits = grid.limits
  sound : after.Sound
  recalculated : Sheet.Recalculated grid.sheet after.sheet
  untouched : ∀ other : CellRef, other ≠ place → after.sheet[other]? = grid.sheet[other]?
  kept : ∀ a, a ≠ place.address → after.graph.reads.targets a = grid.graph.reads.targets a
  visited : ∀ formula, grid.sheet.formulaAt? place = some formula →
    grid.Taken after place formula [] ∨ grid.Refused after place formula

theorem step_taken (h : grid.Sound) (hplace : place.Named)
    (hformula : grid.sheet.formulaAt? place = some formula)
    (ha : (grid.adopt place formula).graph.Acyclic) :
    grid.Step place ((grid.adopt place formula).present place (grid.textFor formula)) where
  limits := rfl
  sound := (h.rewire hplace ha).present _ _
  recalculated := .writeValue hformula
  untouched := fun _ hother => Sheet.getElem?_writeValue_of_ne hother
  kept := fun _ ha => DependencyGraph.targets_rewire_of_ne ha
  visited := by
    intro other hother
    rw [hformula] at hother
    obtain rfl := Option.some.inj hother
    refine Or.inl ⟨DependencyGraph.targets_rewire_self, ?_⟩
    -- The cell does not read itself, so writing its value does not change the value.
    have htext : grid.textInTurn ((grid.adopt place formula).present place (grid.textFor formula))
        [] formula = grid.textFor formula := by
      refine shownText_congr_of_canonical fun a hmem hcanonical => ?_
      rw [Sheet.lookupBetween, if_neg List.not_mem_nil]
      refine Sheet.lookup_writeValue hcanonical ?_
      rintro rfl
      exact not_mem_referencesOf_of_acyclic ha hmem
    rw [htext]
    exact Sheet.writeValue_writeValue_self _

theorem step_refused (h : grid.Sound) (hformula : grid.sheet.formulaAt? place = some formula)
    (ha : ¬ (grid.adopt place formula).graph.Acyclic) :
    grid.Step place (grid.present place errorText) where
  limits := rfl
  sound := h.present _ _
  recalculated := .writeValue hformula
  untouched := fun _ hother => Sheet.getElem?_writeValue_of_ne hother
  kept := fun _ _ => rfl
  visited := by
    intro other hother
    rw [hformula] at hother
    obtain rfl := Option.some.inj hother
    refine Or.inr ⟨rfl, fun hlinked => ha ?_, Sheet.writeValue_writeValue_self _⟩
    rw [adopt_eq_self h.coherent hlinked]
    exact h.acyclic

/-- **Calculating one cell** touches nothing else. -/
theorem step_calculateCell (h : grid.Sound) (hplace : place.Named) :
    grid.Step place (grid.calculateCell place).2 := by
  cases hformula : grid.sheet.formulaAt? place with
  | none =>
    rw [calculateCell_plain hformula]
    refine ⟨rfl, h, .refl _, fun _ _ => rfl, fun _ _ => rfl, fun formula hf => ?_⟩
    rw [hformula] at hf
    cases hf
  | some formula =>
    by_cases ha : (grid.adopt place formula).graph.Acyclic
    · rw [calculateCell_accepted hformula ha, evaluateInto_snd, textFor_adopt]
      exact step_taken h hplace hformula ha
    · obtain ⟨error, herror⟩ := calculateCell_rejected h.coherent hformula ha
      rw [herror]
      exact step_refused h hformula ha

/-! ### One cell after another -/

/-- **What a pass over a list of cells leaves behind.** -/
structure Pass (grid : Grid) (steps : List String) (after : Grid) : Prop where
  limits : after.limits = grid.limits
  sound : after.Sound
  recalculated : Sheet.Recalculated grid.sheet after.sheet
  untouched : ∀ place : CellRef, place.address ∉ steps → after.sheet[place]? = grid.sheet[place]?
  kept : ∀ a, a ∉ steps → after.graph.reads.targets a = grid.graph.reads.targets a
  visited : ∀ (place : CellRef) (formula : String) (earlier later : List String),
    steps = earlier ++ place.address :: later → grid.sheet.formulaAt? place = some formula →
    grid.Taken after place formula later ∨ grid.Refused after place formula

theorem Pass.nil (h : grid.Sound) : grid.Pass [] grid where
  limits := rfl
  sound := h
  recalculated := .refl _
  untouched := fun _ _ => rfl
  kept := fun _ _ => rfl
  visited := fun _ _ earlier later hsplit => by simp at hsplit

/-- A canonical address outside the list reads the same as before. -/
theorem Pass.lookup (h : grid.Pass steps after) (hcanonical : Address.Canonical a)
    (ha : a ∉ steps) : after.sheet.lookup a = grid.sheet.lookup a := by
  obtain ⟨place, hparse, rfl⟩ := hcanonical
  exact Sheet.lookup_congr hparse (h.untouched place ha)

/-- **A pass takes in the references of a cell or leaves its arrows as they were.** -/
theorem Pass.linked_or_kept (hpass : grid.Pass steps after)
    (hformula : grid.sheet.formulaAt? place = some formula) :
    after.Linked place formula ∨
      after.graph.reads.targets place.address = grid.graph.reads.targets place.address := by
  by_cases hmem : place.address ∈ steps
  · obtain ⟨earlier, later, hsplit⟩ := List.append_of_mem hmem
    rcases hpass.visited place formula earlier later hsplit hformula with htaken | hrefused
    · exact Or.inl htaken.linked
    · exact Or.inr hrefused.kept
  · exact Or.inr (hpass.kept _ hmem)

theorem Step.lookup (h : grid.Step place middle) (hcanonical : Address.Canonical a)
    (ha : a ≠ place.address) : middle.sheet.lookup a = grid.sheet.lookup a := by
  obtain ⟨cell, hparse, rfl⟩ := hcanonical
  refine Sheet.lookup_congr hparse (h.untouched cell ?_)
  rintro rfl
  exact ha rfl

/-- The first cell has its turn while all of the rest is still to come. -/
theorem Taken.pass (h : grid.Taken middle place formula []) (hstep : grid.Step place middle)
    (hpass : middle.Pass steps after) (hplace : place.address ∉ steps) :
    grid.Taken after place formula steps where
  linked := (hpass.kept _ hplace).trans h.linked
  shown := by
    have htext : grid.textInTurn after steps formula = grid.textInTurn middle [] formula := by
      refine shownText_congr_of_canonical fun a _ hcanonical => ?_
      -- What is still to come was not touched before, and everything else is not touched later.
      rw [Sheet.lookupBetween, Sheet.lookupBetween, if_neg List.not_mem_nil]
      by_cases ha : a ∈ steps
      · rw [if_pos ha, hstep.lookup hcanonical fun he => hplace (he ▸ ha)]
      · rw [if_neg ha, hpass.lookup hcanonical ha]
    rw [htext]
    exact Sheet.writeValue_eq_self_congr (hpass.untouched place hplace) h.shown

theorem Refused.pass (h : grid.Refused middle place formula) (hpass : middle.Pass steps after)
    (hplace : place.address ∉ steps) : grid.Refused after place formula where
  kept := (hpass.kept _ hplace).trans h.kept
  unlinked := fun hlinked => h.unlinked ((hpass.kept _ hplace).symm.trans hlinked)
  shown := Sheet.writeValue_eq_self_congr (hpass.untouched place hplace) h.shown

/-- A cell of the rest does not notice that its pass began one cell earlier. -/
theorem Taken.after_step {cell : CellRef} (h : middle.Taken after cell formula later)
    (hstep : grid.Step place middle) (hplace : place.address ∉ later) :
    grid.Taken after cell formula later where
  linked := h.linked
  shown := by
    have htext : grid.textInTurn after later formula = middle.textInTurn after later formula := by
      rw [textInTurn, textInTurn, hstep.limits]
      refine shownText_congr_of_canonical fun a _ hcanonical => ?_
      rw [Sheet.lookupBetween, Sheet.lookupBetween]
      by_cases ha : a ∈ later
      · rw [if_pos ha, if_pos ha, hstep.lookup hcanonical fun he => hplace (he ▸ ha)]
      · rw [if_neg ha, if_neg ha]
    rw [htext]
    exact h.shown

theorem Pass.cons (hstep : grid.Step place middle) (hpass : middle.Pass steps after)
    (hplace : place.address ∉ steps) : grid.Pass (place.address :: steps) after where
  limits := hpass.limits.trans hstep.limits
  sound := hpass.sound
  recalculated := hstep.recalculated.trans hpass.recalculated
  untouched := by
    intro other hother
    obtain ⟨hne, hrest⟩ := List.ne_and_not_mem_of_not_mem_cons hother
    rw [hpass.untouched other hrest, hstep.untouched other fun he => hne (he ▸ rfl)]
  kept := by
    intro a ha
    obtain ⟨hne, hrest⟩ := List.ne_and_not_mem_of_not_mem_cons ha
    rw [hpass.kept a hrest, hstep.kept a hne]
  visited := by
    intro cell formula earlier later hsplit hformula
    cases earlier with
    | nil =>
      obtain ⟨hcell, rfl⟩ := List.cons_eq_cons.mp hsplit
      obtain rfl := CellRef.address_injective hcell
      rcases hstep.visited formula hformula with h | h
      · exact Or.inl (h.pass hstep hpass hplace)
      · exact Or.inr (h.pass hpass hplace)
    | cons first earlier =>
      obtain ⟨-, rfl⟩ := List.cons_eq_cons.mp hsplit
      rw [← hstep.recalculated.formulaAt? cell] at hformula
      rcases hpass.visited cell formula earlier later rfl hformula with h | h
      · refine Or.inl (h.after_step hstep fun hmem => hplace ?_)
        exact List.mem_append_right _ (List.mem_cons_of_mem _ hmem)
      · refine Or.inr ⟨h.kept.trans (hstep.kept _ fun he => hplace ?_), h.unlinked, h.shown⟩
        exact he ▸ List.mem_append_right _ List.mem_cons_self

/-- **A pass over canonical addresses goes through,** whatever the graph becomes on the way. -/
theorem exists_pass : ∀ (steps : List String) (grid : Grid), grid.Sound → steps.Nodup →
    (∀ a ∈ steps, Address.Canonical a) →
    ∃ after, grid.calculateInOrder steps = (.ok (), after) ∧ grid.Pass steps after
  | [], grid, h, _, _ => ⟨grid, rfl, .nil h⟩
  | a :: rest, grid, h, hnodup, hcanonical => by
    obtain ⟨ha, hrest⟩ := List.nodup_cons.mp hnodup
    obtain ⟨place, hparse, rfl⟩ := hcanonical a List.mem_cons_self
    have hstep := step_calculateCell h (CellRef.named_of_parse hparse)
    -- The step may have moved the graph; the rest only needs the grid to be sound still.
    obtain ⟨after, hafter, hpass⟩ := exists_pass rest _ hstep.sound hrest
      fun a ha => hcanonical a (List.mem_cons_of_mem _ ha)
    refine ⟨after, ?_, .cons hstep hpass ha⟩
    rw [calculateInOrder, hparse]
    exact hafter

/-- **A cascade goes through and is a pass over the agenda.** -/
theorem exists_cascade (h : grid.Sound) (place : CellRef) :
    ∃ after, grid.cascade place = (.ok (), after) ∧
      grid.Pass (grid.graph.agenda place.address) after := by
  obtain ⟨order, horder, -⟩ := DependencyGraph.exists_order h.coherent h.acyclic
  have hcanonical : ∀ a ∈ grid.graph.agenda place.address, Address.Canonical a := by
    intro a ha
    have hway := (DependencyGraph.mem_agenda h.coherent h.acyclic).mp ha
    obtain ⟨b, hb, -⟩ := Relation.TransGen.head'_iff.mp hway
    exact h.canonical a b hb
  obtain ⟨after, hafter, hpass⟩ := exists_pass _ grid h
    (DependencyGraph.nodup_agenda h.coherent h.acyclic) hcanonical
  refine ⟨after, ?_, hpass⟩
  rw [cascade, horder]
  rw [DependencyGraph.agenda, horder] at hafter
  exact hafter

/-! ### When a cell is right -/

/-- **A formula with no reference behind it shows at its turn what it has to show in the end.** -/
theorem textInTurn_eq_textFor (hlimits : after.limits = grid.limits)
    (hbehind : ∀ a ∈ referencesOf formula, a ∉ later) :
    grid.textInTurn after later formula = after.textFor formula := by
  rw [textFor, hlimits]
  refine shownText_congr_of_canonical fun a ha _ => ?_
  rw [Sheet.lookupBetween, if_neg (hbehind a ha)]

theorem Taken.settled (h : grid.Taken after place formula later)
    (hlimits : after.limits = grid.limits) (hbehind : ∀ a ∈ referencesOf formula, a ∉ later) :
    after.Settled place formula := by
  rw [Settled, ← textInTurn_eq_textFor hlimits hbehind]
  exact h.shown

end Grid
end Gridcalc
