import Gridcalc.Proofs.Document.Linking

/-! # The turn of a cell

`Grid.link` goes through the cells of a sheet in their order.  At the turn of a cell the cells
before it have the arrows that they end up with, and the cells from it on those that they came
with (`Grid.reads_turn_iff`).  So the fate of a formula is decided by what was accepted before it
and by the arrows from before (`Grid.linked_link_iff`).

On an empty graph nothing is left from before, and a formula is rejected exactly if it reads its
own cell or closes a cycle with accepted formulas of cells before it (`Grid.not_accepted_iff`).
-/
namespace Gridcalc.Grid
open Relation
variable {grid : Grid} {place : CellRef} {cell : Cell} {formula : String}

/-! ### All cells -/

section Link
variable (hc : grid.graph.Coherent) (ha : grid.graph.Acyclic)
include hc ha

theorem links_link : Linking.Links { grid } grid.sheet.toList grid.link :=
  Linking.links_addAll grid.sheet.toList { grid } hc ha
    (fun _ hentry => Sheet.formulaAt?_of_mem_toList hentry) grid.sheet.toList_pairwise_ne

/-- The accepted formulas are those whose arrows are in place in the end. -/
theorem mem_accepted : (place, formula) ∈ grid.link.accepted ↔
    grid.sheet.formulaAt? place = some formula ∧ grid.link.grid.Linked place formula := by
  rw [Linking.mem_accepted_of_links (links_link hc ha), ← Sheet.mem_formulas]
  exact or_iff_right List.not_mem_nil

theorem accepted_reverse : grid.link.accepted.reverse =
    grid.sheet.formulas.filter fun entry => grid.link.grid.Linked entry.1 entry.2 :=
  (links_link hc ha).accepted

theorem verdict_of_getElem? (h : grid.sheet[place]? = some cell) :
    Linking.Verdict grid grid.link.grid place cell :=
  (links_link hc ha).verdict (place, cell) (Std.ExtTreeMap.mem_toList_iff_getElem?_eq_some.mpr h)

end Link

/-! ### The cells before a cell and those behind it -/

section Split
variable {earlier later rest : List (CellRef × Cell)}

theorem exists_split (h : grid.sheet[place]? = some cell) :
    ∃ earlier later, grid.sheet.toList = earlier ++ (place, cell) :: later :=
  List.append_of_mem (Std.ExtTreeMap.mem_toList_iff_getElem?_eq_some.mpr h)

section Order
variable (hsplit : grid.sheet.toList = earlier ++ (place, cell) :: later)
include hsplit

theorem lt_of_mem_earlier {entry : CellRef × Cell} (h : entry ∈ earlier) :
    compare entry.1 place = .lt := by
  have hsorted : grid.sheet.toList.Pairwise fun a b => compare a.1 b.1 = .lt :=
    Std.ExtTreeMap.ordered_keys_toList
  rw [hsplit] at hsorted
  exact (List.pairwise_append.mp hsorted).2.2 entry h (place, cell) List.mem_cons_self

theorem not_lt_of_mem_rest {entry : CellRef × Cell} (h : entry ∈ (place, cell) :: later) :
    compare entry.1 place ≠ .lt := by
  have hsorted : grid.sheet.toList.Pairwise fun a b => compare a.1 b.1 = .lt :=
    Std.ExtTreeMap.ordered_keys_toList
  rw [hsplit] at hsorted
  have hlater := (List.pairwise_cons.mp (List.pairwise_append.mp hsorted).2.1).1
  rcases List.mem_cons.mp h with rfl | h
  · simp
  · exact Std.OrientedCmp.not_lt_of_lt (hlater entry h)

theorem mem_earlier_iff {entry : CellRef × Cell} (h : grid.sheet[entry.1]? = some entry.2) :
    entry ∈ earlier ↔ compare entry.1 place = .lt := by
  refine ⟨lt_of_mem_earlier hsplit, fun hlt => ?_⟩
  have hmem : entry ∈ grid.sheet.toList := Std.ExtTreeMap.mem_toList_iff_getElem?_eq_some.mpr h
  rw [hsplit] at hmem
  exact (List.mem_append.mp hmem).resolve_right fun hrest => not_lt_of_mem_rest hsplit hrest hlt

end Order

theorem links_split (hc : grid.graph.Coherent) (ha : grid.graph.Acyclic)
    (hsplit : grid.sheet.toList = earlier ++ rest) :
    Linking.Links { grid } earlier (Linking.addAll { grid } earlier) ∧
      (Linking.addAll { grid } earlier).Links rest grid.link := by
  have hdistinct := grid.sheet.toList_pairwise_ne
  have hformulas : ∀ entry ∈ earlier ++ rest,
      grid.sheet.formulaAt? entry.1 = entry.2.formula? := by
    intro entry hentry
    rw [← hsplit] at hentry
    exact Sheet.formulaAt?_of_mem_toList hentry
  rw [hsplit] at hdistinct
  obtain ⟨hfirst, hsecond, -⟩ := List.pairwise_append.mp hdistinct
  have hlinks := Linking.links_addAll earlier { grid } hc ha
    (fun entry hentry => hformulas entry (List.mem_append_left _ hentry)) hfirst
  have hlink : grid.link = (Linking.addAll { grid } earlier).addAll rest := by
    rw [← Linking.addAll_append, ← hsplit]
    rfl
  refine ⟨hlinks, hlink ▸ Linking.links_addAll rest _ hlinks.coherent hlinks.acyclic ?_ hsecond⟩
  intro entry hentry
  rw [hlinks.recalculated.formulaAt?]
  exact hformulas entry (List.mem_append_right _ hentry)

end Split

/-! ### Without arrows -/

/-- The same cells without arrows. -/
def bare (grid : Grid) : Grid := { grid with graph := ∅ }

theorem coherent_bare : grid.bare.graph.Coherent := DependencyGraph.coherent_empty

theorem acyclic_bare : grid.bare.graph.Acyclic := DependencyGraph.acyclic_empty

theorem not_reads_bare {a b : String} : ¬ grid.bare.graph.Reads a b :=
  fun h => absurd h.mem Std.ExtTreeMap.not_mem_empty

theorem links_bare : Linking.Links { grid := grid.bare } grid.sheet.toList grid.bare.link :=
  links_link coherent_bare acyclic_bare

theorem mem_accepted_bare : (place, formula) ∈ grid.bare.link.accepted ↔
    grid.sheet.formulaAt? place = some formula ∧ grid.bare.link.grid.Linked place formula :=
  mem_accepted coherent_bare acyclic_bare

theorem reads_link_bare_iff {a b : String} : grid.bare.link.grid.graph.Reads a b ↔
    ∃ entry ∈ grid.bare.link.accepted, entry.1.address = a ∧ b ∈ referencesOf entry.2 :=
  Linking.reads_iff_of_links links_bare rfl rfl

theorem verdict_bare (h : grid.sheet[place]? = some cell) :
    Linking.Verdict grid.bare grid.bare.link.grid place cell :=
  verdict_of_getElem? coherent_bare acyclic_bare h

/-! ### The arrows at the turn of a cell -/

/-- Among some formulas, one of a cell before `place` is in `a` and reads `b`. -/
def ReadsBefore (formulas : List (CellRef × String)) (place : CellRef) (a b : String) : Prop :=
  ∃ entry ∈ formulas, compare entry.1 place = .lt ∧ entry.1.address = a ∧ b ∈ referencesOf entry.2

/-- A formula in `a`, a cell not before `place`, came with an arrow to `b`. -/
def ReadsFrom (grid : Grid) (place : CellRef) (a b : String) : Prop :=
  ∃ other formula, grid.sheet.formulaAt? other = some formula ∧ compare other place ≠ .lt ∧
    other.address = a ∧ grid.graph.Reads a b

/-- The arrows at the turn of a cell, when certain formulas are accepted and the rejected ones
came without arrows. -/
def ReadsAt (grid : Grid) (accepted : List (CellRef × String)) (place : CellRef)
    (a b : String) : Prop :=
  ReadsBefore accepted place a b ∨ grid.ReadsFrom place a b

/-- Up to a cell everything ends up as in the bare sheet. -/
def RebuiltBefore (grid : Grid) (place : CellRef) : Prop :=
  ∀ (other : CellRef) (found : Cell), grid.sheet[other]? = some found →
    compare other place = .lt → grid.link.grid.graph.reads.targets other.address =
      grid.bare.link.grid.graph.reads.targets other.address

/-- Then the arrows before the cell are those of the formulas that the bare sheet accepts. -/
theorem RebuiltBefore.reads_iff {earlier later : List (CellRef × Cell)}
    (h : grid.RebuiltBefore place)
    (hsplit : grid.sheet.toList = earlier ++ (place, cell) :: later) {a b : String} :
    (∃ entry ∈ earlier, entry.1.address = a ∧ grid.link.grid.graph.Reads a b) ↔
      ReadsBefore grid.bare.link.accepted place a b := by
  constructor
  · rintro ⟨entry, hentry, rfl, hab⟩
    have hlt := lt_of_mem_earlier hsplit hentry
    have hstored : grid.sheet[entry.1]? = some entry.2 :=
      Std.ExtTreeMap.mem_toList_iff_getElem?_eq_some.mp (hsplit ▸ List.mem_append_left _ hentry)
    rw [DependencyGraph.Reads, Adjacency.Arrow, h entry.1 entry.2 hstored hlt] at hab
    obtain ⟨other, hother, he, hb⟩ := reads_link_bare_iff.mp hab
    exact ⟨other, hother, CellRef.address_injective he ▸ hlt, he, hb⟩
  · rintro ⟨entry, hentry, hlt, rfl, hb⟩
    obtain ⟨hstored, -⟩ := mem_accepted_bare.mp hentry
    obtain ⟨found, hfound, -⟩ := Sheet.formulaAt?_eq_some.mp hstored
    have hmem : (entry.1, found) ∈ earlier ↔ compare entry.1 place = .lt :=
      mem_earlier_iff hsplit hfound
    refine ⟨(entry.1, found), hmem.mpr hlt, rfl, ?_⟩
    rw [DependencyGraph.Reads, Adjacency.Arrow, h entry.1 found hfound hlt]
    exact reads_link_bare_iff.mpr ⟨entry, hentry, rfl, hb⟩

section Turn
variable (hc : grid.graph.Coherent) (ha : grid.graph.Acyclic)
  (hsource : ∀ a b, grid.graph.Reads a b →
    ∃ place formula, grid.sheet.formulaAt? place = some formula ∧ place.address = a)
include hc ha hsource

/-- **The arrows at the turn of a cell**: up to it those that are there in the end, and from it on
those from before. -/
theorem reads_turn_iff {earlier later : List (CellRef × Cell)}
    (hsplit : grid.sheet.toList = earlier ++ (place, cell) :: later) {a b : String} :
    (Linking.addAll { grid } earlier).grid.graph.Reads a b ↔
      (∃ entry ∈ earlier, entry.1.address = a ∧ grid.link.grid.graph.Reads a b) ∨
        grid.ReadsFrom place a b := by
  obtain ⟨hfirst, hsecond⟩ := links_split hc ha hsplit
  have hearlier : ∀ entry ∈ earlier, compare entry.1 place = .lt :=
    fun _ => lt_of_mem_earlier hsplit
  by_cases hstored : ∃ entry ∈ earlier, entry.1.address = a
  · obtain ⟨entry, hentry, rfl⟩ := hstored
    -- The cells from here on are other cells and leave these arrows alone.
    have hkept := hsecond.kept entry.1.address fun other hother he =>
      not_lt_of_mem_rest hsplit hother (CellRef.address_injective he ▸ hearlier entry hentry)
    rw [DependencyGraph.Reads, DependencyGraph.Reads, Adjacency.Arrow, Adjacency.Arrow, hkept]
    refine ⟨fun hab => Or.inl ⟨entry, hentry, rfl, hab⟩, ?_⟩
    rintro (⟨-, -, -, hab⟩ | ⟨other, formula, -, hnot, he, -⟩)
    · exact hab
    · exact absurd (CellRef.address_injective he ▸ hearlier entry hentry) hnot
  · have hkept := hfirst.kept a fun entry hentry he => hstored ⟨entry, hentry, he⟩
    have hreads : (Linking.addAll { grid } earlier).grid.graph.Reads a b ↔
        grid.graph.Reads a b := by
      rw [DependencyGraph.Reads, Adjacency.Arrow, hkept]
      rfl
    rw [hreads]
    constructor
    · intro hab
      obtain ⟨other, formula, hformula, he⟩ := hsource a b hab
      obtain ⟨found, hfound, -⟩ := Sheet.formulaAt?_eq_some.mp hformula
      have hmem : (other, found) ∈ earlier ↔ compare other place = .lt :=
        mem_earlier_iff hsplit hfound
      refine Or.inr ⟨other, formula, hformula, fun hlt => ?_, he, hab⟩
      exact hstored ⟨(other, found), hmem.mpr hlt, he⟩
    · rintro (⟨entry, hentry, he, -⟩ | ⟨_, _, _, _, _, hab⟩)
      · exact absurd ⟨entry, hentry, he⟩ hstored
      · exact hab

/-- **When a formula keeps its references,** if up to its cell everything ends up as in the bare
sheet: when they close no cycle with the arrows of its turn. -/
theorem linked_link_iff (hformula : grid.sheet.formulaAt? place = some formula)
    (hbefore : grid.RebuiltBefore place) :
    grid.link.grid.Linked place formula ↔ ∀ reference ∈ referencesOf formula,
      ¬ ReflTransGen (grid.ReadsAt grid.bare.link.accepted place) reference place.address := by
  obtain ⟨cell, hcell, hf⟩ := Sheet.formulaAt?_eq_some.mp hformula
  obtain ⟨earlier, later, hsplit⟩ := exists_split hcell
  obtain ⟨hfirst, -⟩ := links_split hc ha hsplit
  have hreads : (Linking.addAll { grid } earlier).grid.graph.Reads =
      grid.ReadsAt grid.bare.link.accepted place := by
    funext a b
    exact propext ((reads_turn_iff hc ha hsource hsplit).trans
      (or_congr_left (hbefore.reads_iff hsplit)))
  have hopen : grid.link.grid.Linked place formula ↔
      ((Linking.addAll { grid } earlier).grid.adopt place formula).graph.Acyclic :=
    Linking.linked_iff hc ha (fun _ hentry => Sheet.formulaAt?_of_mem_toList hentry)
      grid.sheet.toList_pairwise_ne hsplit hf
  rw [hopen, ← not_iff_not, adopt, DependencyGraph.not_acyclic_rewire_iff hfirst.acyclic, hreads]
  push Not
  rfl

end Turn

/-- **Which formulas are rejected**: those that read their own cell or close a cycle with the
accepted formulas of cells before it. -/
theorem not_accepted_iff (hempty : grid.graph = ∅)
    (hformula : grid.sheet.formulaAt? place = some formula) :
    (place, formula) ∉ grid.link.accepted ↔
      place.address ∈ referencesOf formula ∨ ∃ reference ∈ referencesOf formula,
        Relation.TransGen (ReadsBefore grid.link.accepted place) reference place.address := by
  have hc := DependencyGraph.coherent_of_eq_empty hempty
  have ha := DependencyGraph.acyclic_of_eq_empty hempty
  have hnone : ∀ a b, ¬ grid.graph.Reads a b := by
    intro a b hab
    rw [hempty] at hab
    exact absurd hab.mem Std.ExtTreeMap.not_mem_empty
  have hself : grid.bare = grid := by rw [bare, ← hempty]
  have hreads : grid.ReadsAt grid.link.accepted place = ReadsBefore grid.link.accepted place := by
    funext a b
    refine propext (or_iff_left ?_)
    rintro ⟨_, _, _, _, _, hab⟩
    exact hnone a b hab
  have hlinked := linked_link_iff hc ha (fun a b hab => absurd hab (hnone a b)) hformula
    fun _ _ _ _ => by rw [hself]
  rw [hself, hreads] at hlinked
  rw [mem_accepted hc ha, and_iff_right hformula, hlinked]
  push Not
  constructor
  · rintro ⟨reference, hmem, hway⟩
    rcases reflTransGen_iff_eq_or_transGen.mp hway with he | hway
    · exact Or.inl (he ▸ hmem)
    · exact Or.inr ⟨reference, hmem, hway⟩
  · rintro (hself | ⟨reference, hmem, hway⟩)
    · exact ⟨place.address, hself, .refl⟩
    · exact ⟨reference, hmem, hway.to_reflTransGen⟩

end Gridcalc.Grid
