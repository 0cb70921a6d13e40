import Gridcalc.Proofs.Document.Evaluation
import Gridcalc.Proofs.Document.Turn

/-! # Calculating a whole sheet

`Grid.calculateAll` takes in the references of all cells and then evaluates the formulas that
were accepted.  On a grid whose graph is coherent and acyclic it goes through, and leaves
every formula shown against the final sheet or rejected (`Grid.exists_calculated`).  The
counts it returns can be read off the grid it leaves behind (`Grid.tally`).

A grid is *stable* when calculation finds nothing to do in it (`Grid.Stable`).  A stable grid
is calculated to itself (`Stable.calculateAll`), and what is calculated from an empty graph is
stable (`Calculated.stable`).  From a graph with arrows it need not be: an old arrow of a cell
further down can have a formula rejected, and is replaced only afterwards.
-/
namespace Gridcalc

/-! ### Formulas and counts -/

theorem Sheet.nodup_formulas (sheet : Sheet) : sheet.formulas.Nodup :=
  (formulasOf_pairwise_ne sheet.toList_pairwise_ne).imp fun h he => h (congrArg Prod.fst he)

theorem Sheet.Recalculated.perm_formulas {before after : Sheet} (h : Recalculated before after) :
    after.formulas.Perm before.formulas := by
  refine (List.perm_ext_iff_of_nodup after.nodup_formulas before.nodup_formulas).mpr ?_
  rintro ⟨place, formula⟩
  rw [mem_formulas, mem_formulas, h.formulaAt?]

namespace Grid
variable {grid after : Grid} {place : CellRef} {formula : String}

/-- **How many formulas of a grid have a value, have none, and are not linked.** -/
def tally (grid : Grid) : Summary :=
  grid.counted (grid.sheet.formulas.filter fun entry => grid.Linked entry.1 entry.2)
    { rejected := grid.sheet.formulas.countP fun entry => ¬ grid.Linked entry.1 entry.2 }

theorem counted_perm {first second : List (CellRef × String)} (h : first.Perm second)
    (summary : Summary) : grid.counted first summary = grid.counted second summary := by
  rw [counted, counted, h.countP_eq, h.countP_eq]

theorem tally_total : grid.tally.computed + grid.tally.faulted + grid.tally.rejected =
    grid.sheet.formulas.length := by
  have hvalues := List.length_eq_countP_add_countP
    (fun entry : CellRef × String => (grid.evaluate entry.2).isOk)
    (l := grid.sheet.formulas.filter fun entry => grid.Linked entry.1 entry.2)
  have hlinked := List.length_eq_countP_add_countP
    (fun entry : CellRef × String => decide (grid.Linked entry.1 entry.2))
    (l := grid.sheet.formulas)
  rw [List.countP_eq_length_filter, hvalues] at hlinked
  simp only [tally, counted, decide_not, Bool.not_eq_true, Bool.decide_eq_false] at hlinked ⊢
  omega

theorem linked_of_tally_rejected (h : grid.tally.rejected = 0)
    (hformula : grid.sheet.formulaAt? place = some formula) : grid.Linked place formula := by
  have hcount : grid.sheet.formulas.countP (fun entry => ¬ grid.Linked entry.1 entry.2) = 0 := h
  have hnone := List.countP_eq_zero.mp hcount (place, formula) (Sheet.mem_formulas.mpr hformula)
  simpa using hnone

/-! ### What a calculation does -/

/-- **What the calculation of a whole sheet leaves behind.** -/
structure Calculated (grid after : Grid) : Prop where
  limits : after.limits = grid.limits
  graph : after.graph = grid.link.grid.graph
  recalculated : Sheet.Recalculated grid.sheet after.sheet
  settled : ∀ (place : CellRef) (formula : String), grid.sheet.formulaAt? place = some formula →
    after.Linked place formula → after.Settled place formula
  rejected : ∀ (place : CellRef) (formula : String), grid.sheet.formulaAt? place = some formula →
    ¬ after.Linked place formula → after.sheet.writeValue place errorText = after.sheet

/-- The accepted formulas in the order in which they are evaluated. -/
def schedule (grid : Grid) (order : List String) : List (CellRef × String) :=
  arrange order grid.link.accepted.reverse

section Calculation
variable {order : List String} (hc : grid.graph.Coherent) (ha : grid.graph.Acyclic)
include hc ha

theorem mem_schedule : (place, formula) ∈ grid.schedule order ↔
    grid.sheet.formulaAt? place = some formula ∧ grid.link.grid.Linked place formula := by
  rw [← mem_accepted hc ha, schedule, perm_arrange.mem_iff, List.mem_reverse]

theorem schedule_pairwise_ne :
    (grid.schedule order).Pairwise fun first second => first.1 ≠ second.1 := by
  refine perm_arrange.symm.pairwise ?_ fun {_ _} hne => Ne.symm hne
  rw [accepted_reverse hc ha]
  exact (Sheet.formulasOf_pairwise_ne grid.sheet.toList_pairwise_ne).filter _

theorem counted_schedule (hgraph : after.graph = grid.link.grid.graph)
    (hsheet : Sheet.Recalculated grid.sheet after.sheet) :
    after.counted (grid.schedule order) { rejected := grid.link.rejected } = after.tally := by
  have hlinked : ∀ entry : CellRef × String,
      grid.link.grid.Linked entry.1 entry.2 ↔ after.Linked entry.1 entry.2 :=
    fun _ => (linked_congr hgraph).symm
  have hformulas := hsheet.perm_formulas
  have hrejected : grid.link.rejected =
      after.sheet.formulas.countP fun entry => ¬ after.Linked entry.1 entry.2 := by
    rw [(links_link hc ha).rejected, hformulas.countP_eq]
    simp only [hlinked, Nat.zero_add]
    rfl
  rw [tally, hrejected, schedule, accepted_reverse hc ha]
  simp only [hlinked]
  exact counted_perm (perm_arrange.trans (hformulas.filter _).symm) _

theorem calculateAll_eq : ∃ order, grid.link.grid.graph.IsOrder order ∧
    grid.calculateAll =
      ((.ok (evaluateEach (grid.schedule order)
          ({ rejected := grid.link.rejected }, grid.link.grid)).1),
        (evaluateEach (grid.schedule order)
          ({ rejected := grid.link.rejected }, grid.link.grid)).2) := by
  have hlinks := links_link hc ha
  obtain ⟨order, horder, h⟩ := DependencyGraph.exists_order hlinks.coherent hlinks.acyclic
  refine ⟨order, h, ?_⟩
  simp only [calculateAll, horder]
  rfl

/-- The accepted formulas are evaluated for good. -/
theorem exists_evaluated_schedule (horder : grid.link.grid.graph.IsOrder order)
    (summary : Summary) :
    ∃ after, evaluateEach (grid.schedule order) (summary, grid.link.grid) =
        (after.counted (grid.schedule order) summary, after) ∧
      grid.link.grid.Evaluated (grid.schedule order) after := by
  have hlinks := links_link hc ha
  refine exists_evaluated _ _ summary (fun entry hentry => ?_) (fun entry hentry hself => ?_)
    (schedule_pairwise_ne hc ha)
    (arrange_pairwise hlinks.coherent hlinks.acyclic horder fun entry hentry => ?_)
  · rw [hlinks.recalculated.formulaAt?]
    exact ((mem_schedule hc ha).mp hentry).1
  · -- An accepted formula that read its own cell would be a cycle.
    refine hlinks.acyclic entry.1.address (.single ?_)
    show entry.1.address ∈ grid.link.grid.graph.reads.targets entry.1.address
    rw [((mem_schedule hc ha).mp hentry).2]
    exact hself
  · exact ((mem_accepted hc ha).mp (List.mem_reverse.mp hentry)).2

/-- **The calculation of a whole sheet goes through,** and its counts tell what became of each
formula. -/
theorem exists_calculated :
    ∃ after, grid.calculateAll = (.ok after.tally, after) ∧ grid.Calculated after := by
  have hlinks := links_link hc ha
  obtain ⟨order, horder, hcalculate⟩ := calculateAll_eq hc ha
  obtain ⟨after, hafter, h⟩ := exists_evaluated_schedule hc ha horder
    { rejected := grid.link.rejected }
  have hsheet := hlinks.recalculated.trans h.recalculated
  refine ⟨after, ?_, h.limits.trans hlinks.limits, h.graph, hsheet, fun place formula hf hl => ?_,
    fun place formula hf hl => ?_⟩
  · rw [hcalculate, hafter, counted_schedule hc ha h.graph hsheet]
  · exact h.settled (place, formula)
      ((mem_schedule hc ha).mpr ⟨hf, (linked_congr h.graph).mp hl⟩)
  · have hn := mt (linked_congr h.graph).mpr hl
    obtain ⟨cell, hcell, hformula⟩ := Sheet.formulaAt?_eq_some.mp hf
    obtain ⟨-, hshown⟩ := (verdict_of_getElem? hc ha hcell).rejected formula hformula hn
    -- A rejected formula is not on the schedule, so its error stays.
    refine Sheet.writeValue_eq_self_congr (h.untouched place ?_) hshown
    rintro ⟨_, other⟩ hentry rfl
    obtain ⟨hf', hl'⟩ := (mem_schedule hc ha).mp hentry
    rw [hf] at hf'
    obtain rfl := Option.some.inj hf'
    exact hn hl'

end Calculation

/-! ### Stable grids -/

/-- **A grid in which calculation finds nothing to do.** -/
structure Stable (grid : Grid) : Prop where
  coherent : grid.graph.Coherent
  acyclic : grid.graph.Acyclic
  plain : ∀ (place : CellRef) (cell : Cell), grid.sheet[place]? = some cell →
    cell.formula? = none → grid.graph.reads.targets place.address = ∅
  settled : ∀ (place : CellRef) (formula : String), grid.sheet.formulaAt? place = some formula →
    grid.Linked place formula → grid.Settled place formula
  rejected : ∀ (place : CellRef) (formula : String), grid.sheet.formulaAt? place = some formula →
    ¬ grid.Linked place formula → ¬ (grid.adopt place formula).graph.Acyclic ∧
      grid.sheet.writeValue place errorText = grid.sheet

/-- Taking in the references of a stable grid again changes nothing. -/
theorem Stable.add (h : grid.Stable) {linking : Linking} (hgrid : linking.grid = grid)
    {cell : Cell} (hcell : grid.sheet[place]? = some cell) :
    (linking.add place cell).grid = grid := by
  cases hformula : cell.formula? with
  | none =>
    rw [Linking.add_plain hformula, hgrid]
    show { grid with graph := grid.graph.clearReads place.address } = grid
    rw [DependencyGraph.clearReads, h.coherent.rewire_self (h.plain place cell hcell hformula)]
  | some formula =>
    have hf : grid.sheet.formulaAt? place = some formula :=
      Sheet.formulaAt?_eq_some.mpr ⟨cell, hcell, hformula⟩
    by_cases hlinked : grid.Linked place formula
    · have hself := adopt_eq_self h.coherent hlinked
      rw [Linking.add_accepted hformula (by rw [hgrid, hself]; exact h.acyclic), hgrid]
      exact hself
    · obtain ⟨hcycle, hshown⟩ := h.rejected place formula hf hlinked
      rw [Linking.add_rejected (by rw [hgrid]; exact h.coherent) hformula
        (by rw [hgrid]; exact hcycle), hgrid]
      show { grid with sheet := grid.sheet.writeValue place errorText } = grid
      rw [hshown]

theorem Stable.link (h : grid.Stable) : grid.link.grid = grid := by
  have hall : ∀ (entries : List (CellRef × Cell)) (linking : Linking), linking.grid = grid →
      (∀ entry ∈ entries, grid.sheet[entry.1]? = some entry.2) →
      (linking.addAll entries).grid = grid := by
    intro entries
    induction entries with
    | nil => exact fun _ hgrid _ => hgrid
    | cons entry rest ih =>
      intro linking hgrid hentries
      exact ih _ (h.add hgrid (hentries entry List.mem_cons_self)) fun other hother =>
        hentries other (List.mem_cons_of_mem _ hother)
  exact hall grid.sheet.toList { grid } rfl fun entry hentry =>
    Std.ExtTreeMap.mem_toList_iff_getElem?_eq_some.mp hentry

/-- Evaluating settled formulas again changes nothing. -/
theorem evaluateEach_of_settled : ∀ (todo : List (CellRef × String)) (summary : Summary),
    (∀ entry ∈ todo, grid.Settled entry.1 entry.2) →
    evaluateEach todo (summary, grid) = (grid.counted todo summary, grid)
  | [], summary, _ => rfl
  | (place, formula) :: rest, summary, h => by
    have hsheet : grid.sheet.writeValue place (grid.textFor formula) = grid.sheet :=
      h (place, formula) List.mem_cons_self
    have hself : grid.present place (grid.textFor formula) = grid := by rw [present, hsheet]
    rw [evaluateEach_cons, hself, evaluateEach_of_settled rest _ fun entry hentry =>
      h entry (List.mem_cons_of_mem _ hentry), counted_cons rfl]

/-- **A stable grid is calculated to itself.** -/
theorem Stable.calculateAll (h : grid.Stable) : grid.calculateAll = (.ok grid.tally, grid) := by
  obtain ⟨order, -, hcalculate⟩ := calculateAll_eq h.coherent h.acyclic
  have hsettled : ∀ entry ∈ grid.schedule order, grid.Settled entry.1 entry.2 := by
    intro entry hentry
    obtain ⟨hf, hl⟩ := (mem_schedule h.coherent h.acyclic).mp hentry
    rw [h.link] at hl
    exact h.settled entry.1 entry.2 hf hl
  have hcounted : grid.counted (grid.schedule order) { rejected := grid.link.rejected } =
      grid.tally := counted_schedule h.coherent h.acyclic (by rw [h.link]) (.refl _)
  rw [hcalculate, h.link, evaluateEach_of_settled _ _ hsettled, hcounted]

/-! ### Calculating from an empty graph -/

/-- **What is calculated from an empty graph is stable.** -/
theorem Calculated.stable (h : grid.Calculated after) (hempty : grid.graph = ∅) :
    after.Stable := by
  have hc := DependencyGraph.coherent_of_eq_empty hempty
  have ha := DependencyGraph.acyclic_of_eq_empty hempty
  have hlinks := links_link hc ha
  refine ⟨h.graph ▸ hlinks.coherent, h.graph ▸ hlinks.acyclic, fun place cell hcell hf => ?_,
    fun place formula hf hl => ?_, fun place formula hf hl => ⟨?_, ?_⟩⟩
  · have hplain : grid.sheet.formulaAt? place = none := by
      rw [← h.recalculated.formulaAt?, Sheet.formulaAt?, hcell]
      exact hf
    rw [h.recalculated.plain place hplain] at hcell
    rw [h.graph]
    exact (verdict_of_getElem? hc ha hcell).plain hf
  · rw [h.recalculated.formulaAt?] at hf
    exact h.settled place formula hf hl
  · rw [h.recalculated.formulaAt?] at hf
    -- The arrows that refused the formula are all there in the end.
    have hrejected : (place, formula) ∉ grid.link.accepted := by
      intro hmem
      obtain ⟨-, hlinked⟩ := (mem_accepted hc ha).mp hmem
      exact hl ((linked_congr h.graph).mpr hlinked)
    have hbefore : ∀ a b, ReadsBefore grid.link.accepted place a b → after.graph.Reads a b := by
      rintro a b ⟨entry, hentry, -, hab⟩
      rw [h.graph]
      exact (Linking.reads_iff_of_links hlinks hempty rfl).mpr ⟨entry, hentry, hab⟩
    rw [adopt, DependencyGraph.not_acyclic_rewire_iff (h.graph ▸ hlinks.acyclic)]
    rcases (not_accepted_iff hempty hf).mp hrejected with hself | ⟨reference, hmem, hway⟩
    · exact ⟨place.address, hself, .refl⟩
    · exact ⟨reference, hmem, (Relation.TransGen.mono hbefore _ _ hway).to_reflTransGen⟩
  · rw [h.recalculated.formulaAt?] at hf
    exact h.rejected place formula hf hl

/-! ### The whole of it -/

/-- **The calculation of a whole sheet is a fixed point.**  Every accepted formula shows its
value against the final sheet, every rejected one an error; each is counted once, and nothing
else changes.  From an empty graph the rejected formulas are known, and calculating again
changes nothing. -/
theorem calculateAll_fixpoint (grid : Grid) (hc : grid.graph.Coherent) (ha : grid.graph.Acyclic) :
    ∃ summary after, grid.calculateAll = (.ok summary, after) ∧
      (∀ (place : CellRef) (formula : String), grid.sheet.formulaAt? place = some formula →
        ((place, formula) ∈ grid.link.accepted →
          after.sheet.displayAt place = after.textFor formula ∧ after.Linked place formula) ∧
        ((place, formula) ∉ grid.link.accepted → after.sheet.displayAt place = errorText)) ∧
      summary.rejected = grid.sheet.formulas.countP (fun entry => entry ∉ grid.link.accepted) ∧
      summary.computed + summary.faulted + summary.rejected = grid.sheet.formulas.length ∧
      Sheet.Recalculated grid.sheet after.sheet ∧
      (grid.graph = ∅ →
        (∀ (place : CellRef) (formula : String), grid.sheet.formulaAt? place = some formula →
          ((place, formula) ∉ grid.link.accepted ↔
            place.address ∈ referencesOf formula ∨ ∃ reference ∈ referencesOf formula,
              Relation.TransGen (ReadsBefore grid.link.accepted place) reference place.address)) ∧
        after.calculateAll = (.ok summary, after)) := by
  obtain ⟨after, hcalculate, h⟩ := exists_calculated hc ha
  have haccepted : ∀ place formula, grid.sheet.formulaAt? place = some formula →
      ((place, formula) ∈ grid.link.accepted ↔ after.Linked place formula) := by
    intro place formula hf
    rw [mem_accepted hc ha, and_iff_right hf, linked_congr h.graph]
  refine ⟨after.tally, after, hcalculate, fun place formula hf => ⟨fun hmem => ?_, fun hmem => ?_⟩,
    ?_, ?_, h.recalculated, fun hempty => ⟨fun place formula hf => not_accepted_iff hempty hf,
      (h.stable hempty).calculateAll⟩⟩
  · have hlinked := (haccepted place formula hf).mp hmem
    exact ⟨(h.settled place formula hf hlinked).displayAt_eq, hlinked⟩
  · have hlinked := mt (haccepted place formula hf).mpr hmem
    exact Sheet.displayAt_of_writeValue_eq (h.rejected place formula hf hlinked)
  · show after.sheet.formulas.countP (fun entry => ¬ after.Linked entry.1 entry.2) = _
    rw [h.recalculated.perm_formulas.countP_eq]
    refine List.countP_congr fun entry hentry => ?_
    have hiff : entry ∈ grid.link.accepted ↔ after.Linked entry.1 entry.2 :=
      haccepted entry.1 entry.2 (Sheet.mem_formulas.mp hentry)
    simp only [hiff]
  · rw [tally_total, h.recalculated.perm_formulas.length_eq]

/-- A sheet that was not calculated: `A1` and `B1` read each other, `C1` reads `A1`, and `A2`
reads a cell below it. -/
def uncalculated : Grid where
  sheet := Std.ExtTreeMap.ofList ([(⟨0, 0⟩, .formula "=B1"), (⟨0, 1⟩, .formula "=A1+1"),
    (⟨0, 2⟩, .formula "=A1*2"), (⟨1, 0⟩, .formula "=A3/0"), (⟨2, 0⟩, .literal "7")] :
      List (CellRef × Cell))

set_option maxRecDepth 100000 in
theorem uncalculated_fixpoint : ∃ after,
    uncalculated.calculateAll = (.ok { computed := 2, faulted := 1, rejected := 1 }, after) ∧
      after.calculateAll = (.ok { computed := 2, faulted := 1, rejected := 1 }, after) := by
  obtain ⟨summary, after, hcalculate, -, -, -, -, hempty⟩ := calculateAll_fixpoint uncalculated
    DependencyGraph.coherent_empty DependencyGraph.acyclic_empty
  have hsummary : uncalculated.calculateAll.1 =
      .ok { computed := 2, faulted := 1, rejected := 1 } := by decide +kernel
  rw [hcalculate] at hsummary
  obtain rfl := Except.ok.inj hsummary
  exact ⟨after, hcalculate, (hempty rfl).2⟩

end Grid
end Gridcalc
