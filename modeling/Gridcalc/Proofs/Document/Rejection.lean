import Gridcalc.Proofs.Document.Intact

/-! # Why an edit was rejected

An edit is rejected for a formula that reads its own cell, or for a cycle that its references
would close.  The cycle is one of arrows, and leads through the cell, whose own arrows in it
are the references of the new formula.  The arrows of another cell are references too, but
after a rejected edit not always of the formula that the cell holds.

Where an arrow comes from is told by the edits.  Each of them takes in the references of the
formula that a cell holds afterwards, or it leaves the arrows of the cell as they were, and then
it is an edit of another cell or was itself rejected (`Document.linked_or_kept`).  So every
arrow is a reference of a formula that its cell held at some time, since when every edit of
the cell was rejected (`Document.exists_origin`).

With that a rejection can be read off the formulas, up to references left over in this way
(`Document.rejection_explained`).  They can close a cycle that no formulas close
(`Document.leftOver_closes_cycle`).
-/
namespace Gridcalc

/-! ### The answer of one calculation -/

namespace Grid
variable {grid : Grid} {place : CellRef} {formula : String} {error : CycleError}

theorem setReads_of_calculate (grid : Grid) (hformula : grid.sheet.formulaAt? place = some formula)
    (h : (grid.calculate place).1 = .ok (.rejected error)) :
    (grid.graph.setReads place.address (referencesOf formula)).1 = .error error := by
  have hcell := fst_calculateCell_of_calculate h
  rw [calculateCell, hformula] at hcell
  simp only at hcell
  split at hcell
  · rw [evaluateInto_eq] at hcell
    exact absurd hcell CellOutcome.ofEvaluation_ne_rejected
  · rename_i heq
    rw [heq, CellOutcome.rejected.inj hcell]

end Grid

namespace Document
variable {document after : Document} {place cell : CellRef} {address typed b : String}
  {error : CycleError}

/-- **A rejected edit**: a formula was entered and is stored, its references were refused with the
error reported, and no other cell was touched. -/
structure Rejected (document : Document) (place : CellRef) (typed : String) (error : CycleError)
    (after : Document) (formula : String) : Prop where
  entered : (Cell.ofInput typed).formula? = some formula
  refused : (document.graph.setReads place.address (Grid.referencesOf formula)).1 = .error error
  stored : after.sheet.formulaAt? place = some formula
  untouched : ∀ other : CellRef, other ≠ place → after.sheet[other]? = document.sheet[other]?

theorem exists_rejected (h : document.Intact)
    (henter : document.enter place typed = (.ok (.rejected error), after)) :
    ∃ formula, document.Rejected place typed error after formula := by
  have ha := not_acyclic_of_rejected (congrArg Prod.fst henter)
  obtain ⟨formula, hformula⟩ := Cell.exists_formula?_of_not_acyclic h.acyclic ha
  have hinserted : Sheet.formulaAt? (document.sheet.insert place (Cell.ofInput typed)) place =
      some formula := Sheet.formulaAt?_insert_self.trans hformula
  have hrefused : (document.graph.setReads place.address (Grid.referencesOf formula)).1 =
      .error error := by
    rw [enter_of_formula hformula] at henter
    exact Grid.setReads_of_calculate
      { document.toGrid with sheet := document.sheet.insert place (Cell.ofInput typed) }
      hinserted (congrArg Prod.fst henter)
  obtain ⟨other, hother⟩ := enter_rejected h.coherent ha h.acyclic
  obtain ⟨-, rfl⟩ := Prod.mk.inj (henter.symm.trans hother)
  refine ⟨formula, hformula, hrefused, Sheet.formulaAt?_writeValue.trans hinserted, ?_⟩
  intro cell hne
  exact (Sheet.getElem?_writeValue_of_ne hne).trans (Sheet.getElem?_insert_of_ne hne)

/-! ### Where arrows come from -/

/-- **Every edit of the cell among these is rejected,** when they are made one after another. -/
def Rejects (document : Document) (cell : CellRef) : List Edit → Prop
  | [] => True
  | edit :: rest =>
    (CellRef.parse edit.address = .ok cell →
      ∃ error, (document.enterAt edit.address edit.typed).1 = .ok (.rejected error)) ∧
    (document.enterAt edit.address edit.typed).2.Rejects cell rest

/-- **Where an arrow comes from**: after the earlier edits the cell held a formula with the
reference, its arrows were the references of that formula, and every later edit of the cell was
rejected. -/
structure Origin (document : Document) (cell : CellRef) (b : String) (earlier later : List Edit)
    (formula : String) : Prop where
  held : (document.edited earlier).sheet.formulaAt? cell = some formula
  linked : (document.edited earlier).Linked cell formula
  reference : b ∈ Grid.referencesOf formula
  rejects : (document.edited earlier).Rejects cell later

/-- **An edit takes in the references of the formula that a cell holds, or leaves the arrows of
the cell as they were.**  Then it is an edit of another cell, or it was rejected. -/
theorem linked_or_kept (h : document.Sound) {edit : Edit} {formula : String}
    (hformula : (document.enterAt edit.address edit.typed).2.sheet.formulaAt? cell =
      some formula) :
    (document.enterAt edit.address edit.typed).2.Linked cell formula ∨
      (document.enterAt edit.address edit.typed).2.graph.reads.targets cell.address =
        document.graph.reads.targets cell.address ∧
      (CellRef.parse edit.address = .ok cell →
        ∃ error, (document.enterAt edit.address edit.typed).1 = .ok (.rejected error)) := by
  cases hparse : CellRef.parse edit.address with
  | error error =>
    simp only [enterAt, hparse]
    refine Or.inr ⟨trivial, fun hcell => ?_⟩
    cases hcell
  | ok place =>
    rw [enterAt_of_parse hparse] at hformula ⊢
    obtain ⟨-, outcome, after, henter, -, hpass⟩ | ⟨error, henter⟩ :=
      enter_cases h (CellRef.named_of_parse hparse) edit.typed
    · rw [henter] at hformula ⊢
      have hentered := (hpass.recalculated.formulaAt? cell).symm.trans hformula
      rcases hpass.linked_or_kept hentered with hlinked | hkept
      · exact Or.inl hlinked
      rw [Grid.graph_entered] at hkept
      by_cases he : cell = place
      · -- The arrows of the edited cell were replaced before the pass began.
        subst he
        rw [Grid.formulaAt?_entered, if_pos rfl] at hentered
        rw [DependencyGraph.targets_rewire_self, Cell.references_of_formula? hentered] at hkept
        exact Or.inl hkept
      · rw [DependencyGraph.targets_rewire_of_ne fun hn => he (CellRef.address_injective hn)]
          at hkept
        exact Or.inr ⟨hkept, fun hcell => absurd (Except.ok.inj hcell).symm he⟩
    · rw [henter]
      exact Or.inr ⟨rfl, fun _ => ⟨error, rfl⟩⟩

/-- **An arrow was there before the edits, and every edit of its cell was rejected, or it comes from
one of them.** -/
theorem kept_or_origin (hs : document.Sound) (h : document.Intact) (edits : List Edit)
    (hread : (document.edited edits).graph.Reads cell.address b) :
    document.graph.Reads cell.address b ∧ document.Rejects cell edits ∨
      ∃ earlier later formula, edits = earlier ++ later ∧
        document.Origin cell b earlier later formula := by
  induction edits generalizing document with
  | nil => exact Or.inl ⟨hread, trivial⟩
  | cons edit rest ih =>
    obtain ⟨hsound, -⟩ := sound_enterAt hs edit.address edit.typed
    have hintact := intact_enterAt h edit.address edit.typed
    rcases ih hsound hintact hread with ⟨hmiddle, hrejects⟩ | horigin
    · obtain ⟨formula, hformula⟩ := hintact.exists_formulaAt? hmiddle
      rcases linked_or_kept hs hformula with hlinked | ⟨hkept, hrejected⟩
      · -- The arrow is a reference of the formula that the cell holds after this edit.
        refine Or.inr ⟨[edit], rest, formula, rfl, hformula, hlinked, ?_, hrejects⟩
        rw [← hlinked]
        exact hmiddle
      · rw [DependencyGraph.Reads, Adjacency.Arrow, hkept] at hmiddle
        exact Or.inl ⟨hmiddle, hrejected, hrejects⟩
    · obtain ⟨earlier, later, formula, rfl, horigin⟩ := horigin
      exact Or.inr ⟨edit :: earlier, later, formula, rfl,
        horigin.held, horigin.linked, horigin.reference, horigin.rejects⟩

/-- **Every arrow comes from one of the edits.** -/
theorem exists_origin (limits : Limits) (edits : List Edit)
    (hread : ((fresh limits).edited edits).graph.Reads cell.address b) :
    ∃ earlier later formula, edits = earlier ++ later ∧
      (fresh limits).Origin cell b earlier later formula := by
  rcases kept_or_origin (sound_fresh limits) (intact_fresh limits) edits hread with
    ⟨hnone, -⟩ | horigin
  · exact absurd hnone.mem Std.ExtTreeMap.not_mem_empty
  · exact horigin

/-! ### Formulas that no edit changed -/

/-- Edits of other cells leave the formula of a cell as it is. -/
theorem formulaAt?_edited_of_ne (document : Document) {edits : List Edit}
    (h : ∀ edit ∈ edits, CellRef.parse edit.address ≠ .ok cell) :
    (document.edited edits).sheet.formulaAt? cell = document.sheet.formulaAt? cell := by
  induction edits generalizing document with
  | nil => rfl
  | cons edit rest ih =>
    obtain ⟨hfirst, hrest⟩ := List.forall_mem_cons.mp h
    refine (ih _ hrest).trans ?_
    show (document.enterAt edit.address edit.typed).2.sheet.formulaAt? cell = _
    cases hparse : CellRef.parse edit.address with
    | error error => simp only [enterAt, hparse]
    | ok place =>
      have hne : cell ≠ place := fun he => hfirst (he ▸ hparse)
      rw [enterAt_of_parse hparse, (recalculated_enter _ _ _).formulaAt? cell, Sheet.formulaAt?,
        Sheet.getElem?_insert_of_ne hne]
      rfl

/-! ### What a rejection tells -/

/-- **A reference is left over** when it was taken in for a formula that its cell held after some
of the edits, and the cell was edited since then, but always rejected. -/
def LeftOver (limits : Limits) (edits : List Edit) (cell : CellRef) (b : String) : Prop :=
  ∃ earlier later formula, edits = earlier ++ later ∧
    (fresh limits).Origin cell b earlier later formula ∧
    ∃ edit ∈ later, CellRef.parse edit.address = .ok cell

/-- **An arrow is a reference of the formula that its cell holds, or left over.**  In the second
case the cell shows an error. -/
theorem reference_or_leftOver (limits : Limits) (edits : List Edit)
    (hread : ((fresh limits).edited edits).graph.Reads cell.address b) :
    ∃ stored, ((fresh limits).edited edits).sheet.formulaAt? cell = some stored ∧
      (b ∈ Grid.referencesOf stored ∨
        ((fresh limits).edited edits).sheet.displayAt cell = errorText ∧
          LeftOver limits edits cell b) := by
  have h := intact_edited limits edits
  obtain ⟨stored, hstored⟩ := h.exists_formulaAt? hread
  refine ⟨stored, hstored, ?_⟩
  by_cases hmem : b ∈ Grid.referencesOf stored
  · exact Or.inl hmem
  obtain ⟨earlier, later, formula, rfl, horigin⟩ := exists_origin limits edits hread
  refine Or.inr ⟨?_, earlier, later, formula, rfl, horigin, ?_⟩
  · refine h.displayAt_of_not_linked hstored fun hlinked => hmem ?_
    rw [← hlinked]
    exact hread
  · -- Without an edit of the cell it would still hold the formula that the arrow is from.
    by_contra hnone
    have hsame := formulaAt?_edited_of_ne ((fresh limits).edited earlier)
      fun edit hedit hcell => hnone ⟨edit, hedit, hcell⟩
    rw [← edited_append, hstored, horigin.held] at hsame
    exact hmem (Option.some.inj hsame ▸ horigin.reference)

/-- **The arrows that a rejected edit would have led to** are references of stored formulas, up to
those left over. -/
theorem Rejected.explains {limits : Limits} {edits : List Edit} {formula x y : String}
    (h : ((fresh limits).edited edits).Rejected place typed error after formula)
    (harrow : (((fresh limits).edited edits).graph.rewire place.address
      (Grid.referencesOf formula)).Reads x y) :
    ∃ cell stored, cell.address = x ∧ after.sheet.formulaAt? cell = some stored ∧
      (y ∈ Grid.referencesOf stored ∨
        cell ≠ place ∧ after.sheet.displayAt cell = errorText ∧ LeftOver limits edits cell y) := by
  by_cases hx : x = place.address
  · -- The arrows of the edited cell are the references of what was entered.
    subst hx
    exact ⟨place, formula, rfl, h.stored, Or.inl (DependencyGraph.reads_rewire_self.mp harrow)⟩
  · -- All other arrows were there before the edit, and their cells are as they were.
    have hread := (DependencyGraph.reads_rewire_of_ne hx).mp harrow
    obtain ⟨cell, _, -, rfl⟩ := (intact_edited limits edits).source x y hread
    have hne : cell ≠ place := fun he => hx (he ▸ rfl)
    obtain ⟨stored, hstored, hsource⟩ := reference_or_leftOver limits edits hread
    refine ⟨cell, stored, rfl, ?_, ?_⟩
    · rw [Sheet.formulaAt?, h.untouched cell hne]
      exact hstored
    · rw [Sheet.displayAt, h.untouched cell hne]
      exact hsource.imp_right (And.intro hne)

/-- **Why an edit was rejected,** after any edits, rejected ones included.  The edit entered a
formula.  A self reference is reported only for the edited cell, when the formula reads it.  A
reported cycle leads through the edited cell and back to where it begins, and in it each node
is a cell whose formula, as it is now stored, reads the next node.  The one exception is a
reference left over: of a formula that a cell held before the last edits of it, all of which were
rejected, so that the cell shows an error. -/
theorem rejection_explained (limits : Limits) (edits : List Edit) {address typed : String}
    {error : CycleError} {after : Document}
    (henter : ((fresh limits).edited edits).enterAt address typed =
      (.ok (.rejected error), after)) :
    ∃ place formula, CellRef.parse address = .ok place ∧
      (Cell.ofInput typed).formula? = some formula ∧
      after.sheet.formulaAt? place = some formula ∧
      (∀ node, error = .selfReference node →
        node = place.address ∧ node ∈ Grid.referencesOf formula) ∧
      ∀ path, error = .cycle path →
        (∃ first rest, path = first :: (rest ++ [first]) ∧ (first :: rest).Nodup) ∧
        place.address ∈ path ∧
        ∀ x y, [x, y] <:+: path → ∃ cell stored, cell.address = x ∧
          after.sheet.formulaAt? cell = some stored ∧
          (y ∈ Grid.referencesOf stored ∨
            cell ≠ place ∧ after.sheet.displayAt cell = errorText ∧
              LeftOver limits edits cell y) := by
  have h := intact_edited limits edits
  cases hparse : CellRef.parse address with
  | error fault =>
    simp only [enterAt, hparse] at henter
    cases henter
  | ok place =>
    rw [enterAt_of_parse hparse] at henter
    obtain ⟨formula, hrejected⟩ := exists_rejected h henter
    refine ⟨place, formula, rfl, hrejected.entered, hrejected.stored, ?_, ?_⟩
    · rintro node rfl
      obtain ⟨he, hmem⟩ | ⟨path, he, -⟩ := DependencyGraph.setReads_fst_eq_error hrejected.refused
      · obtain rfl := CycleError.selfReference.inj he
        exact ⟨rfl, hmem⟩
      · cases he
    · rintro path rfl
      obtain ⟨he, -⟩ | ⟨path, he, hcycle⟩ :=
        DependencyGraph.setReads_fst_eq_error hrejected.refused
      · cases he
      obtain rfl := CycleError.cycle.inj he
      have hloop := Adjacency.isLoop_of_cycle? hcycle
      have hthrough := DependencyGraph.mem_of_isLoop_rewire h.acyclic hloop
      obtain ⟨first, rest, hpath, hnodup, hchain⟩ := hloop
      refine ⟨⟨first, rest, hpath, hnodup⟩, hthrough, fun x y hpair => ?_⟩
      exact hrejected.explains <| List.isChain_pair.mp <| List.IsChain.infix hchain hpair

/-- The third edit is rejected.  `C1` then holds a formula that reads `B1` only, while the arrow to
`A1` that it had before is left over. -/
def leavingEdits : List Edit :=
  [⟨"C1", "=A1"⟩, ⟨"B1", "=C1"⟩, ⟨"C1", "=B1"⟩, ⟨"B1", "5"⟩]

set_option maxRecDepth 100000 in
/-- The formula of `A1` is rejected for a cycle through `C1`, in which the step to `A1` is not one
that the formula of `C1` makes. -/
theorem leavingEdits_rejection :
    ∃ cell stored, cell.address = "C1" ∧
      (((fresh {}).edited leavingEdits).enterAt "A1" "=C1").2.sheet.formulaAt? cell = some stored ∧
      ("A1" ∈ Grid.referencesOf stored ∨
        cell ≠ ⟨0, 0⟩ ∧
          (((fresh {}).edited leavingEdits).enterAt "A1" "=C1").2.sheet.displayAt cell =
            errorText ∧
          LeftOver {} leavingEdits cell "A1") := by
  have henter : ((fresh {}).edited leavingEdits).enterAt "A1" "=C1" =
      (.ok (.rejected (.cycle ["A1", "C1", "A1"])),
        (((fresh {}).edited leavingEdits).enterAt "A1" "=C1").2) :=
    Prod.ext (by decide +kernel) rfl
  have hparse : CellRef.parse "A1" = .ok ⟨0, 0⟩ := by decide +kernel
  obtain ⟨place, formula, hplace, -, -, -, hcycle⟩ := rejection_explained {} leavingEdits henter
  obtain rfl := Except.ok.inj (hparse.symm.trans hplace)
  obtain ⟨-, -, hpairs⟩ := hcycle _ rfl
  exact hpairs "C1" "A1" ⟨["A1"], [], rfl⟩

set_option maxRecDepth 100000 in
/-- **A formula can be rejected for a cycle that no formulas close.**  After these edits the
formula of `C1` does not read `A1`, and yet the cycle reported for `A1` goes from `C1` to `A1`. -/
theorem leftOver_closes_cycle : ¬ ∀ (limits : Limits) (edits : List Edit) (address typed : String)
    (path : List String) (after : Document),
    ((fresh limits).edited edits).enterAt address typed =
      (.ok (.rejected (.cycle path)), after) →
    ∀ x y, [x, y] <:+: path → ∃ cell stored, cell.address = x ∧
      after.sheet.formulaAt? cell = some stored ∧ y ∈ Grid.referencesOf stored := by
  intro h
  obtain ⟨cell, stored, hcell, hstored, hmem⟩ := h {} leavingEdits "A1" "=C1" ["A1", "C1", "A1"]
    (((fresh {}).edited leavingEdits).enterAt "A1" "=C1").2
    (Prod.ext (by decide +kernel) rfl) "C1" "A1" ⟨["A1"], [], rfl⟩
  have haddress : (⟨0, 2⟩ : CellRef).address = "C1" := by decide +kernel
  obtain rfl := CellRef.address_injective (hcell.trans haddress.symm)
  have hheld : (((fresh {}).edited leavingEdits).enterAt "A1" "=C1").2.sheet.formulaAt? ⟨0, 2⟩ =
      some "=B1" := by decide +kernel
  obtain rfl := Option.some.inj (hheld.symm.trans hstored)
  exact absurd hmem (by decide +kernel)

end Document
end Gridcalc
