import Gridcalc.Proofs.Address
import Gridcalc.Sheet.Basic
import Mathlib.Logic.Basic

/-! # What calculation does to a sheet

Calculation changes a sheet by one operation only, `Sheet.writeValue`.  It sets what one
cell shows and leaves every formula alone, and of two writes to one cell the later one
counts.  So `sheet.writeValue place text = sheet` says that the cell shows `text` already
and counts as calculated, which is how a settled cell is described later on.

The formulas of a sheet are listed row by row (`Sheet.formulas`), each cell once.

`Sheet.Recalculated` collects what no calculation may change: which cells there are, what
was entered into them, and everything about cells without a formula.
-/
namespace Gridcalc

/-! ### Writing a value -/

/-- The cell once a computed text was written into it. -/
def Cell.showing (cell : Cell) (text : String) : Cell := { cell with value := some text }.markFresh

theorem Cell.formula?_showing (cell : Cell) (text : String) :
    (cell.showing text).formula? = cell.formula? := rfl

namespace Sheet
variable {sheet : Sheet} {place other : CellRef} {text : String}

theorem getElem?_writeValue_self :
    (sheet.writeValue place text)[place]? = some ((sheet.getD place .blank).showing text) :=
  Std.ExtTreeMap.getElem?_insert_self

theorem getElem?_insert_of_ne {cell : Cell} (h : other ≠ place) :
    (sheet.insert place cell)[other]? = sheet[other]? := by
  rw [Std.ExtTreeMap.getElem?_insert, if_neg]
  rw [Std.compare_eq_iff_eq]
  exact Ne.symm h

theorem getElem?_writeValue_of_ne (h : other ≠ place) :
    (sheet.writeValue place text)[other]? = sheet[other]? := getElem?_insert_of_ne h

/-- What is read off a cell after one was stored. -/
theorem bind_getElem?_insert {α : Type} {cell : Cell} (f : Cell → Option α) :
    (sheet.insert place cell)[other]?.bind f =
      if other = place then f cell else sheet[other]?.bind f := by
  by_cases h : other = place
  · rw [if_pos h, h, Std.ExtTreeMap.getElem?_insert_self, Option.bind_some]
  · rw [if_neg h, getElem?_insert_of_ne h]

theorem formulaAt?_insert {cell : Cell} : formulaAt? (sheet.insert place cell) other =
    if other = place then cell.formula? else sheet.formulaAt? other :=
  bind_getElem?_insert Cell.formula?

theorem formulaAt?_eq_some {formula : String} :
    sheet.formulaAt? place = some formula ↔
      ∃ cell, sheet[place]? = some cell ∧ cell.formula? = some formula :=
  Option.bind_eq_some_iff

/-- Writing a value leaves every formula as it is. -/
theorem formulaAt?_writeValue : (sheet.writeValue place text).formulaAt? other =
    sheet.formulaAt? other := by
  by_cases h : other = place
  · subst h
    rw [formulaAt?, formulaAt?, getElem?_writeValue_self, Option.bind_some,
      Cell.formula?_showing, Std.ExtTreeMap.getD_eq_getD_getElem?]
    cases sheet[other]? <;> rfl
  · rw [formulaAt?, getElem?_writeValue_of_ne h]
    rfl

theorem displayAt_writeValue_self : (sheet.writeValue place text).displayAt place = text := by
  rw [displayAt, getElem?_writeValue_self]
  rfl

theorem displayAt_of_writeValue_eq (h : sheet.writeValue place text = sheet) :
    sheet.displayAt place = text := by
  rw [← h]
  exact displayAt_writeValue_self

theorem writeValue_eq_self_iff : sheet.writeValue place text = sheet ↔
    sheet[place]? = some ((sheet.getD place .blank).showing text) := by
  constructor
  · intro h
    have hwrite : (sheet.writeValue place text)[place]? =
        some ((sheet.getD place .blank).showing text) := getElem?_writeValue_self
    rwa [h] at hwrite
  · intro h
    refine Std.ExtTreeMap.ext_getElem? fun other => ?_
    by_cases hother : other = place
    · rw [hother, getElem?_writeValue_self, h]
    · exact getElem?_writeValue_of_ne hother

/-- Whether a cell shows a text is a matter of that cell alone. -/
theorem writeValue_eq_self_congr {first second : Sheet} (h : second[place]? = first[place]?)
    (hfirst : first.writeValue place text = first) : second.writeValue place text = second := by
  rw [writeValue_eq_self_iff] at hfirst ⊢
  rw [h, hfirst, Std.ExtTreeMap.getD_eq_getD_getElem?, Std.ExtTreeMap.getD_eq_getD_getElem?, h]

theorem displayAt_eq_display_getD : sheet.displayAt place = (sheet.getD place .blank).display := by
  rw [displayAt, Std.ExtTreeMap.getD_eq_getD_getElem?]
  cases sheet[place]? <;> rfl

/-- Of two values written to one cell the later one stays. -/
theorem writeValue_writeValue_self (first : String) :
    (sheet.writeValue place first).writeValue place text = sheet.writeValue place text := by
  refine Std.ExtTreeMap.ext_getElem? fun other => ?_
  by_cases h : other = place
  · subst h
    rw [getElem?_writeValue_self, getElem?_writeValue_self,
      Std.ExtTreeMap.getD_eq_getD_getElem?, getElem?_writeValue_self]
    rfl
  · rw [getElem?_writeValue_of_ne h, getElem?_writeValue_of_ne h, getElem?_writeValue_of_ne h]

/-! ### The formulas of a sheet -/

/-- The formulas among some entries of a sheet. -/
def formulasOf (entries : List (CellRef × Cell)) : List (CellRef × String) :=
  entries.filterMap fun entry => entry.2.formula?.map fun formula => (entry.1, formula)

/-- The formulas of a sheet, row by row. -/
def formulas (sheet : Sheet) : List (CellRef × String) := formulasOf sheet.toList

theorem mem_formulasOf {entries : List (CellRef × Cell)} {formula : String} :
    (place, formula) ∈ formulasOf entries ↔
      ∃ cell, (place, cell) ∈ entries ∧ cell.formula? = some formula := by
  rw [formulasOf, List.mem_filterMap]
  constructor
  · rintro ⟨⟨other, cell⟩, hmem, h⟩
    obtain ⟨found, hfound, he⟩ := Option.map_eq_some_iff.mp h
    obtain ⟨rfl, rfl⟩ := Prod.mk.inj he
    exact ⟨cell, hmem, hfound⟩
  · rintro ⟨cell, hmem, h⟩
    exact ⟨(place, cell), hmem, by rw [h]; rfl⟩

theorem mem_formulas {formula : String} :
    (place, formula) ∈ sheet.formulas ↔ sheet.formulaAt? place = some formula := by
  rw [formulas, mem_formulasOf, formulaAt?_eq_some]
  simp only [Std.ExtTreeMap.mem_toList_iff_getElem?_eq_some]

theorem formulaAt?_of_mem_toList {entry : CellRef × Cell} (h : entry ∈ sheet.toList) :
    sheet.formulaAt? entry.1 = entry.2.formula? := by
  rw [formulaAt?, Std.ExtTreeMap.mem_toList_iff_getElem?_eq_some.mp h]
  rfl

/-- Entries of a sheet are entries of different cells. -/
theorem toList_pairwise_ne (sheet : Sheet) :
    sheet.toList.Pairwise fun first second => first.1 ≠ second.1 :=
  Std.ExtTreeMap.distinct_keys_toList.imp fun h he => h (Std.compare_eq_iff_eq.mpr he)

theorem formulasOf_pairwise_ne {entries : List (CellRef × Cell)}
    (h : entries.Pairwise fun first second => first.1 ≠ second.1) :
    (formulasOf entries).Pairwise fun first second => first.1 ≠ second.1 := by
  refine List.Pairwise.filterMap _ ?_ h
  intro first second hne first' hfirst second' hsecond
  obtain ⟨_, -, rfl⟩ := Option.map_eq_some_iff.mp hfirst
  obtain ⟨_, -, rfl⟩ := Option.map_eq_some_iff.mp hsecond
  exact hne

/-! ### Looking up by address -/

theorem getD_lookup {address : String} (h : CellRef.parse address = .ok place) :
    (sheet.lookup address).getD "" = sheet.displayAt place := by
  simp only [lookup, h, displayAt]
  cases sheet[place]? <;> rfl

theorem lookup_congr {first second : Sheet} {address : String}
    (hparse : CellRef.parse address = .ok place) (h : first[place]? = second[place]?) :
    first.lookup address = second.lookup address := by
  simp only [lookup, hparse, h]

/-- A canonical address that is not the cell's own reads the same when the cell is replaced. -/
theorem lookup_insert {cell : Cell} {address : String} (hcanonical : Address.Canonical address)
    (h : address ≠ place.address) :
    lookup (sheet.insert place cell) address = sheet.lookup address := by
  obtain ⟨found, hparse, hfound⟩ := hcanonical
  refine lookup_congr hparse (getElem?_insert_of_ne ?_)
  rintro rfl
  exact h hfound.symm

/-- A canonical address that is not the cell's own reads the same after a write to the cell. -/
theorem lookup_writeValue {address : String} (hcanonical : Address.Canonical address)
    (h : address ≠ place.address) :
    (sheet.writeValue place text).lookup address = sheet.lookup address :=
  lookup_insert hcanonical h

/-! ### What stays -/

/-- **What a calculation keeps**: the cells there are, what was entered into each, and all of
a cell without a formula. -/
structure Recalculated (before after : Sheet) : Prop where
  input : ∀ place : CellRef, (after[place]?).map Cell.input = (before[place]?).map Cell.input
  plain : ∀ place : CellRef, before.formulaAt? place = none → after[place]? = before[place]?

namespace Recalculated
variable {before middle after : Sheet}

theorem refl (sheet : Sheet) : Recalculated sheet sheet := ⟨fun _ => rfl, fun _ _ => rfl⟩

theorem formulaAt? (h : Recalculated before after) (place : CellRef) :
    after.formulaAt? place = before.formulaAt? place := by
  -- Formulas are read off the inputs.
  have hformula : ∀ sheet : Sheet,
      sheet.formulaAt? place =
        ((sheet[place]?).map Cell.input).bind (·.filter Cell.isFormulaText) := by
    intro sheet
    rw [Sheet.formulaAt?, Option.bind_map]
    rfl
  rw [hformula, hformula, h.input]

theorem trans (h₁ : Recalculated before middle) (h₂ : Recalculated middle after) :
    Recalculated before after where
  input := fun place => (h₂.input place).trans (h₁.input place)
  plain := fun place hplace =>
    (h₂.plain place ((h₁.formulaAt? place).trans hplace)).trans (h₁.plain place hplace)

/-- Writing a value for a formula keeps what a calculation has to keep. -/
theorem writeValue {formula : String} (h : sheet.formulaAt? place = some formula) :
    Recalculated sheet (sheet.writeValue place text) where
  input := by
    intro other
    by_cases hother : other = place
    · subst hother
      obtain ⟨cell, hcell, -⟩ := formulaAt?_eq_some.mp h
      rw [getElem?_writeValue_self, Std.ExtTreeMap.getD_eq_getD_getElem?, hcell]
      rfl
    · rw [getElem?_writeValue_of_ne hother]
  plain := by
    intro other hother
    refine getElem?_writeValue_of_ne ?_
    rintro rfl
    rw [h] at hother
    cases hother

end Recalculated
end Sheet
end Gridcalc
