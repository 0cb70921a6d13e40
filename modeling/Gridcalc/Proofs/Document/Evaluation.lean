import Gridcalc.Proofs.Document.Cell
import Mathlib.Data.List.Perm.Basic

/-! # Evaluating the formulas of a sheet

The second half of a whole-sheet calculation evaluates the accepted formulas by the rank of
their cells in an order of the graph.  A formula without arrows has the rank of the first
node, but nothing that matters hangs on it: whatever a cell reads has a lower rank than the
cell (`DependencyGraph.IsOrder.idxOf_lt`), so no formula comes before one whose cell it reads
(`Grid.arrange_pairwise`).  Hence nothing that a formula reads changes after its turn, and in
the end each shows its value against the final sheet (`Grid.exists_evaluated`).
-/
namespace Gridcalc

/-! ### Ranks -/

namespace DependencyGraph
variable {graph : DependencyGraph} {order : List String} {a b : String}

/-- **In an order a node stands behind what it reads.** -/
theorem IsOrder.idxOf_lt (h : graph.IsOrder order) (hc : graph.Coherent) (ha : graph.Acyclic)
    (hab : graph.Reads a b) : (order.idxOf? b).getD 0 < (order.idxOf? a).getD 0 := by
  have hposition : ∀ node, node ∈ graph.nodes →
      ∃ i, ∃ hi : i < order.length, order.idxOf? node = some i ∧ order[i] = node := by
    intro node hnode
    cases hindex : order.idxOf? node with
    | none => exact absurd ((h.mem_iff node).mpr hnode) (List.idxOf?_eq_none_iff.mp hindex)
    | some i =>
      obtain ⟨hi, hget, -⟩ := List.idxOf?_eq_some_iff.mp hindex
      exact ⟨i, hi, rfl, hget⟩
  obtain ⟨i, hi, hindex, hget⟩ := hposition a (hc.mem_nodes.mpr ⟨b, Or.inl hab⟩)
  obtain ⟨j, hj, hindex', hget'⟩ := hposition b (hc.mem_nodes.mpr ⟨a, Or.inr hab⟩)
  rw [hindex, hindex', Option.getD_some, Option.getD_some]
  -- Before it the arrow would go against the order, and at its place it would be a cycle.
  rcases Nat.lt_trichotomy i j with hlt | heq | hgt
  · have hnot := List.pairwise_iff_getElem.mp h.sorted i j hi hj hlt
    rw [hget, hget'] at hnot
    exact absurd hab hnot
  · subst heq
    rw [hget] at hget'
    subst hget'
    exact absurd (.single hab) (ha a)
  · exact hgt

end DependencyGraph

namespace Grid

/-! ### Sorting by rank -/

section Sorting
variable {α : Type}

theorem perm_insertByRank (entry : Nat × α) : ∀ entries : List (Nat × α),
    (insertByRank entry entries).Perm (entry :: entries)
  | [] => .refl _
  | other :: rest => by
    rw [insertByRank]
    split
    · exact .refl _
    · exact ((perm_insertByRank entry rest).cons other).trans (.swap entry other rest)

theorem sorted_insertByRank (entry : Nat × α) : ∀ {entries : List (Nat × α)},
    (entries.Pairwise fun a b => a.1 ≤ b.1) →
    (insertByRank entry entries).Pairwise fun a b => a.1 ≤ b.1
  | [], _ => List.pairwise_singleton _ _
  | other :: rest, h => by
    obtain ⟨hother, hrest⟩ := List.pairwise_cons.mp h
    rw [insertByRank]
    split
    · rename_i hle
      refine List.pairwise_cons.mpr ⟨fun b hb => ?_, h⟩
      rcases List.mem_cons.mp hb with rfl | hb
      · exact hle
      · exact Nat.le_trans hle (hother b hb)
    · rename_i hlt
      refine List.pairwise_cons.mpr ⟨fun b hb => ?_, sorted_insertByRank entry hrest⟩
      rcases List.mem_cons.mp ((perm_insertByRank entry rest).mem_iff.mp hb) with rfl | hb
      · omega
      · exact hother b hb

theorem perm_sortByRank (entries : List (Nat × α)) : (sortByRank entries).Perm entries := by
  induction entries with
  | nil => exact .refl _
  | cons entry rest ih => exact (perm_insertByRank entry _).trans (ih.cons entry)

theorem sorted_sortByRank (entries : List (Nat × α)) :
    (sortByRank entries).Pairwise fun a b => a.1 ≤ b.1 := by
  induction entries with
  | nil => exact .nil
  | cons entry rest ih => exact sorted_insertByRank entry ih

end Sorting

/-! ### The order of the formulas -/

section Arranged
variable {order : List String} {formulas : List (CellRef × String)} {grid : Grid}

theorem perm_arrange : (arrange order formulas).Perm formulas := by
  have hperm := (perm_sortByRank
    (formulas.map fun entry => ((order.idxOf? entry.1.address).getD 0, entry))).map Prod.snd
  rw [List.map_map] at hperm
  exact hperm.trans (.of_eq (List.map_id formulas))

theorem arrange_sorted : (arrange order formulas).Pairwise fun a b =>
    (order.idxOf? a.1.address).getD 0 ≤ (order.idxOf? b.1.address).getD 0 := by
  refine List.pairwise_map.mpr ((sorted_sortByRank _).imp_of_mem ?_)
  intro a b ha hb hle
  have hrank : ∀ entry : Nat × CellRef × String, entry ∈ sortByRank
      (formulas.map fun entry => ((order.idxOf? entry.1.address).getD 0, entry)) →
      entry.1 = (order.idxOf? entry.2.1.address).getD 0 := by
    intro entry hentry
    obtain ⟨formula, -, rfl⟩ := List.mem_map.mp ((perm_sortByRank _).mem_iff.mp hentry)
    rfl
  rwa [← hrank a ha, ← hrank b hb]

/-- **No formula comes before one whose cell it reads.** -/
theorem arrange_pairwise (hc : grid.graph.Coherent) (ha : grid.graph.Acyclic)
    (horder : grid.graph.IsOrder order)
    (hlinked : ∀ entry ∈ formulas, grid.Linked entry.1 entry.2) :
    (arrange order formulas).Pairwise fun a b => b.1.address ∉ referencesOf a.2 := by
  refine arrange_sorted.imp_of_mem fun {a b} hmem _ hle hreads => ?_
  have hab : grid.graph.Reads a.1.address b.1.address := by
    rw [DependencyGraph.Reads, Adjacency.Arrow, hlinked a (perm_arrange.mem_iff.mp hmem)]
    exact hreads
  have hlt := horder.idxOf_lt hc ha hab
  omega

end Arranged

/-! ### Evaluating in turn -/

/-- **What evaluating some formulas leaves behind**: each shows its value in the end. -/
structure Evaluated (grid : Grid) (todo : List (CellRef × String)) (after : Grid) : Prop where
  limits : after.limits = grid.limits
  graph : after.graph = grid.graph
  recalculated : Sheet.Recalculated grid.sheet after.sheet
  untouched : ∀ place : CellRef, (∀ entry ∈ todo, entry.1 ≠ place) →
    after.sheet[place]? = grid.sheet[place]?
  settled : ∀ entry ∈ todo, after.Settled entry.1 entry.2

/-- A summary once some formulas are counted that have a value in the grid or not. -/
def counted (grid : Grid) (todo : List (CellRef × String)) (summary : Summary) : Summary :=
  { summary with
    computed := summary.computed + todo.countP fun entry => (grid.evaluate entry.2).isOk
    faulted := summary.faulted + todo.countP fun entry => !(grid.evaluate entry.2).isOk }

variable {grid after : Grid} {place : CellRef} {formula : String} {todo : List (CellRef × String)}

theorem Evaluated.lookup (h : grid.Evaluated todo after) {a : String}
    (hcanonical : Address.Canonical a) (ha : ∀ entry ∈ todo, entry.1.address ≠ a) :
    after.sheet.lookup a = grid.sheet.lookup a := by
  obtain ⟨cell, hparse, rfl⟩ := hcanonical
  refine Sheet.lookup_congr hparse (h.untouched cell fun entry hentry he => ?_)
  exact ha entry hentry (congrArg CellRef.address he)

/-- Nothing that a formula reads changes after its turn. -/
theorem evaluate_eq_of_evaluated
    (h : (grid.present place (grid.textFor formula)).Evaluated todo after)
    (hself : place.address ∉ referencesOf formula)
    (hlater : ∀ entry ∈ todo, entry.1.address ∉ referencesOf formula) :
    after.evaluate formula = grid.evaluate formula := by
  rw [evaluate, evaluate, h.limits]
  refine Formula.evaluate_congr_of_referencesOf fun a ha => ?_
  have hcanonical := canonical_of_mem_referencesOf ha
  have hplace : a ≠ place.address := by
    rintro rfl
    exact hself ha
  rw [h.lookup hcanonical fun entry hentry he => hlater entry hentry (he ▸ ha), present,
    Sheet.lookup_writeValue hcanonical hplace]

theorem Evaluated.cons (h : (grid.present place (grid.textFor formula)).Evaluated todo after)
    (hformula : grid.sheet.formulaAt? place = some formula)
    (hself : place.address ∉ referencesOf formula)
    (hne : ∀ entry ∈ todo, place ≠ entry.1)
    (hlater : ∀ entry ∈ todo, entry.1.address ∉ referencesOf formula) :
    grid.Evaluated ((place, formula) :: todo) after where
  limits := h.limits
  graph := h.graph
  recalculated := .trans (.writeValue hformula) h.recalculated
  untouched := by
    intro other hother
    rw [h.untouched other fun entry hentry => hother entry (List.mem_cons_of_mem _ hentry)]
    exact Sheet.getElem?_writeValue_of_ne
      (Ne.symm (hother (place, formula) List.mem_cons_self))
  settled := by
    intro entry hentry
    rcases List.mem_cons.mp hentry with rfl | hentry
    · refine (settled_present hself).congr h.limits
        (h.untouched place fun entry hentry => Ne.symm (hne entry hentry)) fun a ha hcanonical => ?_
      exact h.lookup hcanonical fun entry hentry he => hlater entry hentry (he ▸ ha)
    · exact h.settled entry hentry

theorem evaluateEach_cons (summary : Summary) :
    evaluateEach ((place, formula) :: todo) (summary, grid) =
      evaluateEach todo (grid.counted [(place, formula)] summary,
        grid.present place (grid.textFor formula)) := by
  cases hvalue : grid.evaluate formula with
  | ok value =>
    rw [evaluateEach, evaluateInto_ok hvalue]
    simp [counted, hvalue, Except.isOk, Except.toBool]
  | error fault =>
    rw [evaluateEach, evaluateInto_error hvalue]
    simp [counted, hvalue, Except.isOk, Except.toBool]

theorem counted_cons {summary : Summary} (h : after.evaluate formula = grid.evaluate formula) :
    after.counted todo (grid.counted [(place, formula)] summary) =
      after.counted ((place, formula) :: todo) summary := by
  simp only [counted, List.countP_cons, List.countP_nil, h]
  congr 1 <;> omega

/-- **Formulas of which none reads a later one are evaluated for good.** -/
theorem exists_evaluated : ∀ (todo : List (CellRef × String)) (grid : Grid) (summary : Summary),
    (∀ entry ∈ todo, grid.sheet.formulaAt? entry.1 = some entry.2) →
    (∀ entry ∈ todo, entry.1.address ∉ referencesOf entry.2) →
    (todo.Pairwise fun a b => a.1 ≠ b.1) →
    (todo.Pairwise fun a b => b.1.address ∉ referencesOf a.2) →
    ∃ after, evaluateEach todo (summary, grid) = (after.counted todo summary, after) ∧
      grid.Evaluated todo after
  | [], grid, summary, _, _, _, _ =>
    ⟨grid, rfl, rfl, rfl, .refl _, fun _ _ => rfl, fun _ h => absurd h List.not_mem_nil⟩
  | (place, formula) :: rest, grid, summary, hformulas, hself, hdistinct, hsorted => by
    obtain ⟨hne, hdistinct⟩ := List.pairwise_cons.mp hdistinct
    obtain ⟨hlater, hsorted⟩ := List.pairwise_cons.mp hsorted
    have hformula := hformulas (place, formula) List.mem_cons_self
    have hplace := hself (place, formula) List.mem_cons_self
    have hrest : ∀ entry ∈ rest,
        (grid.present place (grid.textFor formula)).sheet.formulaAt? entry.1 = some entry.2 := by
      intro entry hentry
      rw [← hformulas entry (List.mem_cons_of_mem _ hentry)]
      exact Sheet.formulaAt?_writeValue
    obtain ⟨after, hafter, h⟩ := exists_evaluated rest (grid.present place (grid.textFor formula))
      (grid.counted [(place, formula)] summary) hrest
      (fun entry hentry => hself entry (List.mem_cons_of_mem _ hentry)) hdistinct hsorted
    refine ⟨after, ?_, h.cons hformula hplace hne hlater⟩
    rw [evaluateEach_cons, hafter, counted_cons (evaluate_eq_of_evaluated h hplace hlater)]

end Grid
end Gridcalc
