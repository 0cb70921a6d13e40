import Gridcalc.Proofs.Document.Cell

/-! # Taking in the references of a sheet

The first half of a whole-sheet calculation goes through the cells row by row, and takes in
the references of each formula or writes an error.  What it leaves behind is said for any
list of cells at once (`Linking.Links`), and follows from what it does to one cell
(`Linking.links_add`): the graph stays coherent and acyclic, every cell has its verdict, and
the formulas that were accepted are those whose arrows are in place in the end.

Acceptance is greedy.  A formula is accepted exactly when its references close no cycle with
the arrows that are there at its turn (`Linking.linked_iff`).
-/
namespace Gridcalc.Grid.Linking
open Sheet
variable {linking middle after : Linking} {place : CellRef} {cell : Cell} {formula : String}
  {entries earlier later : List (CellRef × Cell)}

/-! ### One cell -/

theorem add_plain (h : cell.formula? = none) : linking.add place cell =
    { linking with
      grid := { linking.grid with graph := linking.grid.graph.clearReads place.address } } := by
  rw [add, h]

theorem add_accepted (h : cell.formula? = some formula)
    (ha : (linking.grid.adopt place formula).graph.Acyclic) : linking.add place cell =
      { linking with
        grid := linking.grid.adopt place formula
        accepted := (place, formula) :: linking.accepted } := by
  rw [add, h]
  simp only [DependencyGraph.setReads_of_acyclic ha]
  rfl

theorem add_rejected (hc : linking.grid.graph.Coherent) (h : cell.formula? = some formula)
    (ha : ¬ (linking.grid.adopt place formula).graph.Acyclic) : linking.add place cell =
      { linking with
        grid := linking.grid.present place errorText
        rejected := linking.rejected + 1 } := by
  obtain ⟨error, herror⟩ := DependencyGraph.setReads_of_not_acyclic hc ha
  rw [add, h]
  simp only [herror]

/-- **What became of a cell**: without a formula it reads nothing, and if the references of its
formula are not its arrows, then it kept those it had and shows an error. -/
structure Verdict (before after : Grid) (place : CellRef) (cell : Cell) : Prop where
  plain : cell.formula? = none → after.graph.reads.targets place.address = ∅
  rejected : ∀ formula, cell.formula? = some formula → ¬ after.Linked place formula →
    after.graph.reads.targets place.address = before.graph.reads.targets place.address ∧
      after.sheet.writeValue place errorText = after.sheet

/-- **What taking in the references of some cells leaves behind.** -/
structure Links (linking : Linking) (entries : List (CellRef × Cell)) (after : Linking) :
    Prop where
  limits : after.grid.limits = linking.grid.limits
  coherent : after.grid.graph.Coherent
  acyclic : after.grid.graph.Acyclic
  recalculated : Recalculated linking.grid.sheet after.grid.sheet
  untouched : ∀ place : CellRef, (∀ entry ∈ entries, entry.1 ≠ place) →
    after.grid.sheet[place]? = linking.grid.sheet[place]?
  kept : ∀ a, (∀ entry ∈ entries, entry.1.address ≠ a) →
    after.grid.graph.reads.targets a = linking.grid.graph.reads.targets a
  verdict : ∀ entry ∈ entries, Verdict linking.grid after.grid entry.1 entry.2
  accepted : after.accepted.reverse = linking.accepted.reverse ++
    (formulasOf entries).filter fun entry => after.grid.Linked entry.1 entry.2
  rejected : after.rejected = linking.rejected +
    (formulasOf entries).countP fun entry => ¬ after.grid.Linked entry.1 entry.2

theorem links_nil (hc : linking.grid.graph.Coherent) (ha : linking.grid.graph.Acyclic) :
    linking.Links [] linking where
  limits := rfl
  coherent := hc
  acyclic := ha
  recalculated := .refl _
  untouched := fun _ _ => rfl
  kept := fun _ _ => rfl
  verdict := fun _ h => absurd h List.not_mem_nil
  accepted := (List.append_nil _).symm
  rejected := rfl

section One
variable (hc : linking.grid.graph.Coherent) (ha : linking.grid.graph.Acyclic)
include hc ha

theorem links_add_plain (h : cell.formula? = none) :
    linking.Links [(place, cell)] (linking.add place cell) := by
  have hformulas : formulasOf [(place, cell)] = [] := by simp [formulasOf, h]
  rw [add_plain h]
  refine ⟨rfl, hc.rewire _ _, ha.clearReads, .refl _, fun _ _ => rfl, fun a hne => ?_,
    fun entry hentry => ?_, by simp [hformulas], by simp [hformulas]⟩
  · exact DependencyGraph.targets_rewire_of_ne
      (Ne.symm (hne (place, cell) (List.mem_singleton_self _)))
  · obtain rfl := List.mem_singleton.mp hentry
    refine ⟨fun _ => DependencyGraph.targets_rewire_self, fun formula hformula => ?_⟩
    rw [h] at hformula
    cases hformula

theorem linked_add_iff (h : cell.formula? = some formula) :
    (linking.add place cell).grid.Linked place formula ↔
      (linking.grid.adopt place formula).graph.Acyclic := by
  by_cases hadopt : (linking.grid.adopt place formula).graph.Acyclic
  · rw [add_accepted h hadopt]
    exact ⟨fun _ => hadopt, fun _ => DependencyGraph.targets_rewire_self⟩
  · rw [add_rejected hc h hadopt]
    refine ⟨fun hlinked => ?_, fun h => absurd h hadopt⟩
    -- Arrows that are there already would not have been refused.
    have hself : linking.grid.adopt place formula = linking.grid := adopt_eq_self hc hlinked
    rw [hself]
    exact ha

theorem links_add_formula (h : cell.formula? = some formula)
    (hformula : linking.grid.sheet.formulaAt? place = some formula) :
    linking.Links [(place, cell)] (linking.add place cell) := by
  have hformulas : formulasOf [(place, cell)] = [(place, formula)] := by simp [formulasOf, h]
  have hne : ∀ {other : CellRef}, (∀ entry ∈ [(place, cell)], entry.1 ≠ other) → other ≠ place :=
    fun hother => Ne.symm (hother (place, cell) (List.mem_singleton_self _))
  by_cases hadopt : (linking.grid.adopt place formula).graph.Acyclic
  · have hlinked : (linking.grid.adopt place formula).Linked place formula :=
      DependencyGraph.targets_rewire_self
    rw [add_accepted h hadopt]
    refine ⟨rfl, hc.rewire _ _, hadopt, .refl _, fun _ _ => rfl, fun a hother => ?_,
      fun entry hentry => ?_, ?_, ?_⟩
    · exact DependencyGraph.targets_rewire_of_ne
        (Ne.symm (hother (place, cell) (List.mem_singleton_self _)))
    · obtain rfl := List.mem_singleton.mp hentry
      refine ⟨fun hnone => ?_, fun other hsome hn => ?_⟩
      · rw [h] at hnone
        cases hnone
      · rw [h] at hsome
        obtain rfl := Option.some.inj hsome
        exact absurd hlinked hn
    · rw [hformulas, List.filter_cons_of_pos (by simpa using hlinked)]
      simp
    · rw [hformulas, List.countP_cons_of_neg (by simpa using hlinked)]
      rfl
  · have hlinked : ¬ (linking.grid.present place errorText).Linked place formula := by
      have hn := mt (linked_add_iff hc ha h).mp hadopt
      rwa [add_rejected hc h hadopt] at hn
    rw [add_rejected hc h hadopt]
    refine ⟨rfl, hc, ha, .writeValue hformula, fun other hother => ?_, fun _ _ => rfl,
      fun entry hentry => ?_, ?_, ?_⟩
    · exact getElem?_writeValue_of_ne (hne hother)
    · obtain rfl := List.mem_singleton.mp hentry
      refine ⟨fun hnone => ?_, fun other _ _ => ⟨rfl, writeValue_writeValue_self _⟩⟩
      rw [h] at hnone
      cases hnone
    · rw [hformulas, List.filter_cons_of_neg (by simpa using hlinked)]
      simp
    · rw [hformulas, List.countP_cons_of_pos (by simpa using hlinked)]
      rfl

/-- **Taking in the references of one cell.** -/
theorem links_add (hformula : linking.grid.sheet.formulaAt? place = cell.formula?) :
    linking.Links [(place, cell)] (linking.add place cell) := by
  cases h : cell.formula? with
  | none => exact links_add_plain hc ha h
  | some formula => exact links_add_formula hc ha h (hformula.trans h)

end One

/-! ### One cell after another -/

/-- Takes in the references of some cells in turn. -/
def addAll (linking : Linking) (entries : List (CellRef × Cell)) : Linking :=
  entries.foldl (fun linking entry => linking.add entry.1 entry.2) linking

/-- A verdict stands as long as the cell and its arrows do. -/
theorem Verdict.congr {before start grid final : Grid} (h : Verdict before grid place cell)
    (hstart : before.graph.reads.targets place.address = start.graph.reads.targets place.address)
    (hreads : final.graph.reads.targets place.address = grid.graph.reads.targets place.address)
    (hcell : final.sheet[place]? = grid.sheet[place]?) : Verdict start final place cell where
  plain := fun hnone => hreads.trans (h.plain hnone)
  rejected := by
    intro formula hformula hn
    obtain ⟨hkept, hshown⟩ := h.rejected formula hformula fun hlinked => hn (hreads.trans hlinked)
    exact ⟨hreads.trans (hkept.trans hstart), writeValue_eq_self_congr hcell hshown⟩

theorem Links.cons (hone : linking.Links [(place, cell)] middle)
    (hrest : middle.Links entries after) (hne : ∀ entry ∈ entries, place ≠ entry.1) :
    linking.Links ((place, cell) :: entries) after := by
  -- The rest leaves this cell and its arrows alone, so its verdict stands.
  have hcell : after.grid.sheet[place]? = middle.grid.sheet[place]? :=
    hrest.untouched place fun entry hentry => Ne.symm (hne entry hentry)
  have hreads : after.grid.graph.reads.targets place.address =
      middle.grid.graph.reads.targets place.address :=
    hrest.kept place.address fun entry hentry he =>
      hne entry hentry (CellRef.address_injective he).symm
  have hlinked : ∀ entry ∈ formulasOf [(place, cell)],
      (after.grid.Linked entry.1 entry.2 ↔ middle.grid.Linked entry.1 entry.2) := by
    rintro ⟨other, formula⟩ hmem
    obtain ⟨_, hmem, -⟩ := mem_formulasOf.mp hmem
    obtain ⟨rfl, -⟩ := Prod.mk.inj (List.mem_singleton.mp hmem)
    rw [Linked, Linked, hreads]
  have hformulas : formulasOf ((place, cell) :: entries) =
      formulasOf [(place, cell)] ++ formulasOf entries := by
    rw [← List.singleton_append]
    exact List.filterMap_append
  refine ⟨hrest.limits.trans hone.limits, hrest.coherent, hrest.acyclic,
    hone.recalculated.trans hrest.recalculated, fun other hother => ?_, fun a hother => ?_,
    fun entry hentry => ?_, ?_, ?_⟩
  · rw [hrest.untouched other fun entry h => hother entry (List.mem_cons_of_mem _ h),
      hone.untouched other fun entry h => hother entry
        (List.mem_singleton.mp h ▸ List.mem_cons_self)]
  · rw [hrest.kept a fun entry h => hother entry (List.mem_cons_of_mem _ h),
      hone.kept a fun entry h => hother entry (List.mem_singleton.mp h ▸ List.mem_cons_self)]
  · rcases List.mem_cons.mp hentry with rfl | hentry
    · exact (hone.verdict _ (List.mem_singleton_self _)).congr rfl hreads hcell
    · refine (hrest.verdict entry hentry).congr (hone.kept _ fun other h he => ?_) rfl rfl
      obtain rfl := List.mem_singleton.mp h
      exact hne entry hentry (CellRef.address_injective he)
  · rw [hrest.accepted, hone.accepted, hformulas, List.filter_append, List.append_assoc]
    congr 2
    exact List.filter_congr fun entry h => by simp only [hlinked entry h]
  · rw [hrest.rejected, hone.rejected, hformulas, List.countP_append, Nat.add_assoc]
    congr 2
    exact List.countP_congr fun entry h => by simp only [hlinked entry h]

/-- **Taking in the references of a list of different cells.** -/
theorem links_addAll : ∀ (entries : List (CellRef × Cell)) (linking : Linking),
    linking.grid.graph.Coherent → linking.grid.graph.Acyclic →
    (∀ entry ∈ entries, linking.grid.sheet.formulaAt? entry.1 = entry.2.formula?) →
    (entries.Pairwise fun first second => first.1 ≠ second.1) →
    linking.Links entries (linking.addAll entries)
  | [], _, hc, ha, _, _ => links_nil hc ha
  | (place, cell) :: rest, linking, hc, ha, hformulas, hdistinct => by
    obtain ⟨hne, hrest⟩ := List.pairwise_cons.mp hdistinct
    have hone := links_add hc ha (hformulas (place, cell) List.mem_cons_self)
    refine hone.cons (links_addAll rest _ hone.coherent hone.acyclic (fun entry h => ?_) hrest) hne
    rw [hone.recalculated.formulaAt?]
    exact hformulas entry (List.mem_cons_of_mem _ h)

/-! ### Acceptance is greedy -/

theorem addAll_append (earlier later : List (CellRef × Cell)) :
    linking.addAll (earlier ++ later) = (linking.addAll earlier).addAll later :=
  List.foldl_append

theorem mem_accepted_of_links (h : linking.Links entries after) {entry : CellRef × String} :
    entry ∈ after.accepted ↔ entry ∈ linking.accepted ∨
      entry ∈ formulasOf entries ∧ after.grid.Linked entry.1 entry.2 := by
  rw [← List.mem_reverse, h.accepted, List.mem_append, List.mem_reverse, List.mem_filter]
  simp

/-- On an empty graph the arrows are those of the accepted formulas. -/
theorem reads_iff_of_links (h : linking.Links entries after) (hempty : linking.grid.graph = ∅)
    (hnone : linking.accepted = []) {a b : String} :
    after.grid.graph.Reads a b ↔
      ∃ entry ∈ after.accepted, entry.1.address = a ∧ b ∈ referencesOf entry.2 := by
  have hold : ∀ node, linking.grid.graph.reads.targets node = ∅ := by
    intro node
    rw [hempty]
    exact DependencyGraph.targets_empty node
  constructor
  · intro hab
    have htargets : after.grid.graph.reads.targets a ≠ ∅ := by
      intro he
      rw [DependencyGraph.Reads, Adjacency.Arrow, he] at hab
      exact Std.ExtTreeSet.not_mem_empty hab
    -- Only an accepted formula puts arrows where there were none.
    by_cases ha : ∃ entry ∈ entries, entry.1.address = a
    · obtain ⟨⟨place, cell⟩, hentry, rfl⟩ := ha
      have hverdict := h.verdict _ hentry
      cases hformula : cell.formula? with
      | none => exact absurd (hverdict.plain hformula) htargets
      | some formula =>
        by_cases hlinked : after.grid.Linked place formula
        · have hmem : (place, formula) ∈ formulasOf entries :=
            mem_formulasOf.mpr ⟨cell, hentry, hformula⟩
          refine ⟨(place, formula), (mem_accepted_of_links h).mpr (Or.inr ⟨hmem, hlinked⟩), rfl, ?_⟩
          rw [← hlinked]
          exact hab
        · obtain ⟨hkept, -⟩ := hverdict.rejected formula hformula hlinked
          exact absurd (hkept.trans (hold _)) htargets
    · have hkept := h.kept a fun entry hentry he => ha ⟨entry, hentry, he⟩
      exact absurd (hkept.trans (hold a)) htargets
  · rintro ⟨entry, hentry, rfl, hb⟩
    rcases (mem_accepted_of_links h).mp hentry with hmem | ⟨-, hlinked⟩
    · rw [hnone] at hmem
      exact absurd hmem List.not_mem_nil
    · show b ∈ after.grid.graph.reads.targets entry.1.address
      rw [hlinked]
      exact hb

/-- **A formula is accepted exactly when it closes no cycle with the arrows at its turn.** -/
theorem linked_iff (hc : linking.grid.graph.Coherent) (ha : linking.grid.graph.Acyclic)
    (hformulas : ∀ entry ∈ entries, linking.grid.sheet.formulaAt? entry.1 = entry.2.formula?)
    (hdistinct : entries.Pairwise fun first second => first.1 ≠ second.1)
    (hsplit : entries = earlier ++ (place, cell) :: later) (h : cell.formula? = some formula) :
    (linking.addAll entries).grid.Linked place formula ↔
      ((linking.addAll earlier).grid.adopt place formula).graph.Acyclic := by
  subst hsplit
  obtain ⟨hearlier, hrest, -⟩ := List.pairwise_append.mp hdistinct
  obtain ⟨hne, hlater⟩ := List.pairwise_cons.mp hrest
  have hfirst := links_addAll earlier linking hc ha
    (fun entry hentry => hformulas entry (List.mem_append_left _ hentry)) hearlier
  have hsheet : ∀ entry ∈ (place, cell) :: later,
      (linking.addAll earlier).grid.sheet.formulaAt? entry.1 = entry.2.formula? := by
    intro entry hentry
    rw [hfirst.recalculated.formulaAt?]
    exact hformulas entry (List.mem_append_right _ hentry)
  have hone := links_add hfirst.coherent hfirst.acyclic (hsheet _ List.mem_cons_self)
  have hlast := links_addAll later _ hone.coherent hone.acyclic (fun entry hentry => by
    rw [hone.recalculated.formulaAt?]
    exact hsheet entry (List.mem_cons_of_mem _ hentry)) hlater
  have hkept := hlast.kept place.address fun entry hentry he =>
    hne entry hentry (CellRef.address_injective he).symm
  rw [addAll_append]
  refine Iff.trans ?_ (linked_add_iff hfirst.coherent hfirst.acyclic h)
  rw [Linked, Linked, ← hkept]
  rfl

end Gridcalc.Grid.Linking
