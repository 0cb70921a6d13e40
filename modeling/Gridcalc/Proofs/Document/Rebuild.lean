import Gridcalc.Proofs.Document.Intact

/-! # Arrows from before

`Grid.calculateAll` takes in the references of one cell after the other and does not empty the
graph first.  At the turn of a cell the cells before it have the arrows that they end up with, and
the cells from it on those that they came with (`Grid.reads_turn_iff`).  An edit that was
rejected leaves a cell with the arrows of an older formula, so the two kinds can close a cycle
that no formulas of the sheet close.

The measure of this is the same sheet without arrows (`Grid.bare`).  Both are calculated alike
exactly when no arrow from before is in the way (`Grid.Unhindered`): a formula that the bare sheet
accepts must close no cycle with the arrows of its turn, and one that it rejects must have come
without arrows, because it keeps them.
-/
namespace Gridcalc

namespace Grid
open Relation
variable {grid : Grid} {place : CellRef} {cell : Cell} {formula : String}

/-- **No arrow from before is in the way.** -/
structure Unhindered (grid : Grid) : Prop where
  /-- What the bare sheet accepts closes no cycle at its turn. -/
  accepted : ∀ place formula, grid.sheet.formulaAt? place = some formula →
    (place, formula) ∈ grid.bare.link.accepted →
    ∀ reference ∈ referencesOf formula,
      ¬ ReflTransGen (grid.ReadsAt grid.bare.link.accepted place) reference place.address
  /-- What the bare sheet rejects has no arrows to keep. -/
  rejected : ∀ place formula, grid.sheet.formulaAt? place = some formula →
    (place, formula) ∉ grid.bare.link.accepted → grid.graph.reads.targets place.address = ∅

section Turn
variable (hc : grid.graph.Coherent) (ha : grid.graph.Acyclic)
  (hsource : ∀ a b, grid.graph.Reads a b →
    ∃ place formula, grid.sheet.formulaAt? place = some formula ∧ place.address = a)
include hc ha hsource

/-- If up to its cell everything ends up as in the bare sheet, a formula that keeps its references
keeps them in the bare sheet too. -/
theorem linked_bare_of_linked (hformula : grid.sheet.formulaAt? place = some formula)
    (hbefore : grid.RebuiltBefore place)
    (h : grid.link.grid.Linked place formula) : grid.bare.link.grid.Linked place formula := by
  have hway := (linked_link_iff hc ha hsource hformula hbefore).mp h
  have hbare : grid.bare.link.grid.Linked place formula ↔ ∀ reference ∈ referencesOf formula,
      ¬ ReflTransGen (grid.bare.ReadsAt grid.bare.link.accepted place) reference place.address :=
    linked_link_iff coherent_bare acyclic_bare (fun _ _ hab => absurd hab not_reads_bare) hformula
      fun _ _ _ _ => rfl
  refine hbare.mpr fun reference hmem hback => hway reference hmem ?_
  refine ReflTransGen.mono (fun a b hab => ?_) _ _ hback
  rcases hab with hbefore | ⟨_, _, _, _, _, hold⟩
  · exact Or.inl hbefore
  · exact absurd hold not_reads_bare

/-! ### The graph -/

/-- A cell that comes to its turn with the right arrows before it gets the right arrows. -/
theorem Unhindered.targets_link (h : grid.Unhindered) (hcell : grid.sheet[place]? = some cell)
    (hbefore : grid.RebuiltBefore place) :
    grid.link.grid.graph.reads.targets place.address =
      grid.bare.link.grid.graph.reads.targets place.address := by
  have hverdict := verdict_of_getElem? hc ha hcell
  have hbare := verdict_bare hcell
  cases hf : cell.formula? with
  | none => rw [hverdict.plain hf, hbare.plain hf]
  | some formula =>
    have hformula : grid.sheet.formulaAt? place = some formula :=
      Sheet.formulaAt?_eq_some.mpr ⟨cell, hcell, hf⟩
    by_cases hmem : (place, formula) ∈ grid.bare.link.accepted
    · have hlinked : grid.link.grid.Linked place formula :=
        (linked_link_iff hc ha hsource hformula hbefore).mpr
          (h.accepted place formula hformula hmem)
      exact hlinked.trans (mem_accepted_bare.mp hmem).2.symm
    · have hbarelinked : ¬ grid.bare.link.grid.Linked place formula :=
        fun hlinked => hmem (mem_accepted_bare.mpr ⟨hformula, hlinked⟩)
      have hlinked := mt (linked_bare_of_linked hc ha hsource hformula hbefore) hbarelinked
      rw [(hverdict.rejected formula hf hlinked).1, (hbare.rejected formula hf hbarelinked).1,
        h.rejected place formula hformula hmem]
      exact (DependencyGraph.targets_empty _).symm

/-- **Unhindered, every cell ends up with the arrows that it has in the bare sheet.** -/
theorem Unhindered.graph_link (h : grid.Unhindered) :
    grid.link.grid.graph = grid.bare.link.grid.graph := by
  have hlinks := links_link hc ha
  have hfront : ∀ earlier later, grid.sheet.toList = earlier ++ later → ∀ entry ∈ earlier,
      grid.link.grid.graph.reads.targets entry.1.address =
        grid.bare.link.grid.graph.reads.targets entry.1.address := by
    intro earlier
    induction earlier using List.reverseRecOn with
    | nil => exact fun _ _ _ hentry => absurd hentry List.not_mem_nil
    | append_singleton front last ih =>
      intro later hsplit entry hentry
      rw [List.append_assoc, List.singleton_append] at hsplit
      rcases List.mem_append.mp hentry with hentry | hentry
      · exact ih _ hsplit entry hentry
      · obtain rfl := List.mem_singleton.mp hentry
        obtain ⟨place, cell⟩ := entry
        have hcell : grid.sheet[place]? = some cell :=
          Std.ExtTreeMap.mem_toList_iff_getElem?_eq_some.mp
            (hsplit ▸ List.mem_append_right _ List.mem_cons_self)
        refine h.targets_link hc ha hsource hcell fun other found hfound hlt => ?_
        have hmem : (other, found) ∈ front ↔ compare other place = .lt :=
          mem_earlier_iff hsplit hfound
        exact ih _ hsplit (other, found) (hmem.mpr hlt)
  refine hlinks.coherent.ext links_bare.coherent fun a => ?_
  by_cases hstored : ∃ entry ∈ grid.sheet.toList, entry.1.address = a
  · obtain ⟨entry, hentry, rfl⟩ := hstored
    exact hfront _ [] (List.append_nil _).symm entry hentry
  · have hnone : ∀ entry ∈ grid.sheet.toList, entry.1.address ≠ a :=
      fun entry hentry he => hstored ⟨entry, hentry, he⟩
    have hold : ∀ b, b ∉ grid.graph.reads.targets a := by
      intro b hab
      obtain ⟨other, formula, hformula, he⟩ := hsource a b hab
      obtain ⟨found, hfound, -⟩ := Sheet.formulaAt?_eq_some.mp hformula
      exact hnone (other, found) (Std.ExtTreeMap.mem_toList_iff_getElem?_eq_some.mpr hfound) he
    rw [hlinks.kept a hnone, links_bare.kept a hnone]
    exact Std.ExtTreeSet.ext_mem fun b => iff_of_false (hold b) Std.ExtTreeSet.not_mem_empty

/-- **The graphs are equal only if no arrow from before is in the way.** -/
theorem unhindered_of_graph_link (h : grid.link.grid.graph = grid.bare.link.grid.graph) :
    grid.Unhindered := by
  have hbefore : ∀ place, grid.RebuiltBefore place := fun _ _ _ _ _ => by rw [h]
  refine ⟨fun place formula hformula hmem => ?_, fun place formula hformula hmem => ?_⟩
  · obtain ⟨-, hlinked⟩ := mem_accepted_bare.mp hmem
    exact (linked_link_iff hc ha hsource hformula (hbefore place)).mp ((linked_congr h).mpr hlinked)
  · obtain ⟨cell, hcell, hf⟩ := Sheet.formulaAt?_eq_some.mp hformula
    have hbarelinked : ¬ grid.bare.link.grid.Linked place formula :=
      fun hlinked => hmem (mem_accepted_bare.mpr ⟨hformula, hlinked⟩)
    -- In both sheets the cell keeps the arrows that it came with, and in the bare one it had none.
    obtain ⟨hkept, -⟩ := (verdict_of_getElem? hc ha hcell).rejected formula hf
      (mt (linked_congr h).mp hbarelinked)
    obtain ⟨hbare, -⟩ := (verdict_bare hcell).rejected formula hf hbarelinked
    rw [← hkept, h, hbare]
    exact DependencyGraph.targets_empty _

end Turn

/-! ### Everything else -/

namespace Linking
variable {linking full lean : Linking}

/-- A linking but for its arrows. -/
def forget (linking : Linking) : Linking := { linking with grid := linking.grid.bare }

theorem forget_add_accepted (h : cell.formula? = some formula)
    (ha : (linking.grid.adopt place formula).graph.Acyclic) : (linking.add place cell).forget =
      { linking.forget with accepted := (place, formula) :: linking.forget.accepted } := by
  rw [add_accepted h ha]
  rfl

theorem forget_add_rejected (hc : linking.grid.graph.Coherent) (h : cell.formula? = some formula)
    (ha : ¬ (linking.grid.adopt place formula).graph.Acyclic) : (linking.add place cell).forget =
      { linking.forget with
        grid := linking.forget.grid.present place errorText
        rejected := linking.forget.rejected + 1 } := by
  rw [add_rejected hc h ha]
  rfl

/-- Two linkings that differ in their arrows only do so still when both accept a formula or both
reject it. -/
theorem forget_add_congr (hfull : full.grid.graph.Coherent) (hlean : lean.grid.graph.Coherent)
    (hsame : full.forget = lean.forget)
    (h : ∀ formula, cell.formula? = some formula →
      ((full.grid.adopt place formula).graph.Acyclic ↔
        (lean.grid.adopt place formula).graph.Acyclic)) :
    (full.add place cell).forget = (lean.add place cell).forget := by
  cases hf : cell.formula? with
  | none =>
    rw [add_plain hf, add_plain hf]
    exact hsame
  | some formula =>
    by_cases ha : (full.grid.adopt place formula).graph.Acyclic
    · rw [forget_add_accepted hf ha, forget_add_accepted hf ((h formula hf).mp ha), hsame]
    · rw [forget_add_rejected hfull hf ha,
        forget_add_rejected hlean hf (mt (h formula hf).mpr ha), hsame]

end Linking

/-- **Equal graphs in the end come from the same verdicts,** so everything else is equal too. -/
theorem link_eq_of_graph_link (hc : grid.graph.Coherent) (ha : grid.graph.Acyclic)
    (h : grid.link.grid.graph = grid.bare.link.grid.graph) : grid.link = grid.bare.link := by
  have hformulas : ∀ entry ∈ grid.sheet.toList,
      grid.sheet.formulaAt? entry.1 = entry.2.formula? :=
    fun _ hentry => Sheet.formulaAt?_of_mem_toList hentry
  have hfront : ∀ earlier later, grid.sheet.toList = earlier ++ later →
      (Linking.addAll { grid } earlier).forget =
        (Linking.addAll { grid := grid.bare } earlier).forget := by
    intro earlier
    induction earlier using List.reverseRecOn with
    | nil => exact fun _ _ => rfl
    | append_singleton front last ih =>
      intro later hsplit
      obtain ⟨place, cell⟩ := last
      rw [List.append_assoc, List.singleton_append] at hsplit
      obtain ⟨hfirst, -⟩ := links_split hc ha hsplit
      have hbare : Linking.Links { grid := grid.bare } front
          (Linking.addAll { grid := grid.bare } front) :=
        (links_split coherent_bare acyclic_bare hsplit).1
      rw [Linking.addAll_append, Linking.addAll_append]
      refine Linking.forget_add_congr hfirst.coherent hbare.coherent (ih _ hsplit) ?_
      intro formula hf
      have hfull : grid.link.grid.Linked place formula ↔
          ((Linking.addAll { grid } front).grid.adopt place formula).graph.Acyclic :=
        Linking.linked_iff hc ha hformulas grid.sheet.toList_pairwise_ne hsplit hf
      have hlean : grid.bare.link.grid.Linked place formula ↔
          ((Linking.addAll { grid := grid.bare } front).grid.adopt place formula).graph.Acyclic :=
        Linking.linked_iff coherent_bare acyclic_bare hformulas grid.sheet.toList_pairwise_ne
          hsplit hf
      exact hfull.symm.trans ((linked_congr h).trans hlean)
  have hforget : grid.link.forget = grid.bare.link.forget := hfront _ [] (List.append_nil _).symm
  have hrestore : ∀ linking : Linking, linking = { linking.forget with
      grid := { linking.forget.grid with graph := linking.grid.graph } } := fun _ => rfl
  rw [hrestore grid.link, hrestore grid.bare.link, hforget, h]

/-- **A sheet is calculated as without arrows exactly when no arrow from before is in the way.** -/
theorem Intact.calculateAll_eq_bare_iff (h : grid.Intact) :
    grid.calculateAll = grid.bare.calculateAll ↔ grid.Unhindered := by
  constructor
  · intro hsame
    obtain ⟨after, hafter, hcalculated⟩ := exists_calculated h.coherent h.acyclic
    have hrebuild : ∃ rebuilt, grid.bare.calculateAll = (.ok rebuilt.tally, rebuilt) ∧
        grid.bare.Calculated rebuilt := exists_calculated coherent_bare acyclic_bare
    obtain ⟨rebuilt, hrebuilt, hbare⟩ := hrebuild
    rw [hafter, hrebuilt] at hsame
    refine unhindered_of_graph_link h.coherent h.acyclic h.source ?_
    rw [← hcalculated.graph, ← hbare.graph, (Prod.mk.inj hsame).2]
  · intro hun
    have hlink : grid.link = grid.bare.link := link_eq_of_graph_link h.coherent h.acyclic
      (hun.graph_link h.coherent h.acyclic h.source)
    simp only [Grid.calculateAll, hlink]

/-- Where each formula has its references for arrows, nothing is in the way. -/
theorem Intact.unhindered_of_linked (h : grid.Intact)
    (hlinked : ∀ place formula, grid.sheet.formulaAt? place = some formula →
      grid.Linked place formula) : grid.Unhindered := by
  have hbefore : ∀ place a b, ReadsBefore grid.bare.link.accepted place a b →
      grid.graph.Reads a b := by
    rintro place a b ⟨entry, hentry, -, rfl, hb⟩
    obtain ⟨hformula, -⟩ := mem_accepted_bare.mp hentry
    have hreads := hlinked entry.1 entry.2 hformula
    rw [DependencyGraph.Reads, Adjacency.Arrow, hreads]
    exact hb
  have hturn : ∀ place a b, grid.ReadsAt grid.bare.link.accepted place a b →
      grid.graph.Reads a b := by
    rintro place a b (hab | ⟨_, _, _, _, _, hab⟩)
    · exact hbefore place a b hab
    · exact hab
  -- A way back from a reference would be a cycle of old arrows.
  have hopen : ∀ place formula, grid.sheet.formulaAt? place = some formula →
      ∀ reference ∈ referencesOf formula,
        ¬ ReflTransGen (grid.ReadsAt grid.bare.link.accepted place) reference place.address := by
    intro place formula hformula reference hmem hway
    have hread : grid.graph.Reads place.address reference := by
      have hreads := hlinked place formula hformula
      rw [DependencyGraph.Reads, Adjacency.Arrow, hreads]
      exact hmem
    exact h.acyclic place.address (TransGen.head' hread (ReflTransGen.mono (hturn place) _ _ hway))
  refine ⟨fun place formula hformula _ => hopen place formula hformula, ?_⟩
  intro place formula hformula hrejected
  -- The bare sheet rejects no formula whose references lead back by no arrow at all.
  have hcycle : place.address ∈ referencesOf formula ∨ ∃ reference ∈ referencesOf formula,
      TransGen (ReadsBefore grid.bare.link.accepted place) reference place.address :=
    (@not_accepted_iff grid.bare place formula rfl hformula).mp hrejected
  rcases hcycle with hself | ⟨reference, hmem, hway⟩
  · exact absurd .refl (hopen place formula hformula _ hself)
  · refine absurd ?_ (hopen place formula hformula reference hmem)
    exact ReflTransGen.mono (fun _ _ => Or.inl) _ _ hway.to_reflTransGen

end Grid

namespace Document

/-- **When the calculation of a whole sheet rebuilds it.**  After any edits, rejected ones
included, it gives the answer and the document that it gives from an empty graph exactly when no
arrow from before is in the way: a formula that is accepted from an empty graph closes no
cycle with the arrows of the cells that come after it, and one that is rejected has no arrows.
That is so in particular when each formula has its references for arrows. -/
theorem calculateAll_rebuilds_iff (limits : Limits) (edits : List Edit) (document : Document)
    (h : document = (fresh limits).edited edits) :
    (document.calculateAll = { document with graph := ∅ }.calculateAll ↔ document.Unhindered) ∧
      ((∀ place formula, document.sheet.formulaAt? place = some formula →
        document.Linked place formula) →
        document.calculateAll = { document with graph := ∅ }.calculateAll) := by
  have hintact : document.Intact := h ▸ intact_edited limits edits
  have hiff : document.calculateAll = { document with graph := ∅ }.calculateAll ↔
      document.Unhindered := by
    rw [← hintact.calculateAll_eq_bare_iff]
    constructor
    · intro hsame
      obtain ⟨hanswer, hafter⟩ := Prod.mk.inj hsame
      exact Prod.ext hanswer (congrArg Document.toGrid hafter)
    · intro hsame
      simp only [calculateAll, onGrid, withGrid]
      rw [hsame]
      rfl
  exact ⟨hiff, fun hlinked => hiff.mpr (hintact.unhindered_of_linked hlinked)⟩

/-- The second edit is rejected, and the third takes away what it was rejected for. -/
def clearedEdits : List Edit := [⟨"A1", "=B1"⟩, ⟨"B1", "=A1"⟩, ⟨"A1", "7"⟩]

set_option maxRecDepth 100000 in
theorem cleared_rebuilds :
    ((fresh {}).edited clearedEdits).calculateAll =
        { (fresh {}).edited clearedEdits with graph := ∅ }.calculateAll ∧
      ((fresh {}).edited clearedEdits).calculateAll.1 =
        .ok { computed := 1, faulted := 0, rejected := 0 } := by
  obtain ⟨hiff, -⟩ := calculateAll_rebuilds_iff {} clearedEdits _ rfl
  have hformulas : ((fresh {}).edited clearedEdits).sheet.formulas = [(⟨0, 1⟩, "=A1")] := by
    decide +kernel
  have haccepted : ((fresh {}).edited clearedEdits).bare.link.accepted = [(⟨0, 1⟩, "=A1")] := by
    decide +kernel
  have honly : ∀ place formula,
      ((fresh {}).edited clearedEdits).sheet.formulaAt? place = some formula →
        (place, formula) = (⟨0, 1⟩, "=A1") := by
    intro place formula hformula
    have hmem := Sheet.mem_formulas.mpr hformula
    rwa [hformulas, List.mem_singleton] at hmem
  refine ⟨hiff.mpr ⟨fun place formula hformula _ reference hmem hway => ?_,
    fun place formula hformula hrejected => ?_⟩, by decide +kernel⟩
  · obtain ⟨rfl, rfl⟩ := Prod.mk.inj (honly place formula hformula)
    have hreference : reference = "A1" := by
      have hlist : Grid.referencesOf "=A1" = .ofList ["A1"] := by decide +kernel
      rw [hlist, Std.ExtTreeSet.mem_ofList, List.contains_iff_mem] at hmem
      exact List.mem_singleton.mp hmem
    subst hreference
    -- Nothing leads on from `A1`, neither an accepted formula nor an arrow from before.
    obtain he | ⟨next, hstep, -⟩ := hway.cases_head
    · exact absurd he (by decide +kernel)
    · obtain ⟨entry, hentry, -, he, -⟩ | ⟨_, _, _, -, -, hold⟩ := hstep
      · rw [haccepted, List.mem_singleton] at hentry
        subst hentry
        exact absurd he (by decide +kernel)
      · have hnone : ((fresh {}).edited clearedEdits).graph.reads.targets "A1" = ∅ := by
          decide +kernel
        rw [DependencyGraph.Reads, Adjacency.Arrow, hnone] at hold
        exact Std.ExtTreeSet.not_mem_empty hold
  · rw [haccepted, List.mem_singleton] at hrejected
    exact absurd (honly place formula hformula) hrejected

/-- The third edit and the last are rejected.  `C1` then holds a formula that reads `B1`, while its
only arrow is the one to `A1` that it had before. -/
def hinderingEdits : List Edit :=
  [⟨"C1", "=A1"⟩, ⟨"B1", "=C1"⟩, ⟨"C1", "=B1"⟩, ⟨"B1", "5"⟩, ⟨"A1", "=C1"⟩]

set_option maxRecDepth 100000 in
/-- **The calculation of a whole sheet does not rebuild it from what is stored alone.**  After
these edits no formulas read each other in a circle, and from an empty graph both have a value.
With the arrow that `C1` kept, `A1` is rejected. -/
theorem hindered_calculateAll :
    (((fresh {}).edited hinderingEdits).calculateAll.1 =
        .ok { computed := 1, faulted := 0, rejected := 1 } ∧
      { (fresh {}).edited hinderingEdits with graph := ∅ }.calculateAll.1 =
        .ok { computed := 2, faulted := 0, rejected := 0 }) ∧
    ¬ ∀ (limits : Limits) (edits : List Edit), ((fresh limits).edited edits).calculateAll =
        { (fresh limits).edited edits with graph := ∅ }.calculateAll := by
  have hkept : ((fresh {}).edited hinderingEdits).calculateAll.1 =
      .ok { computed := 1, faulted := 0, rejected := 1 } := by decide +kernel
  have hrebuilt : { (fresh {}).edited hinderingEdits with graph := ∅ }.calculateAll.1 =
      .ok { computed := 2, faulted := 0, rejected := 0 } := by decide +kernel
  refine ⟨⟨hkept, hrebuilt⟩, fun hsame => ?_⟩
  rw [hsame {} hinderingEdits, hrebuilt] at hkept
  exact absurd hkept (by decide)

end Document
end Gridcalc
