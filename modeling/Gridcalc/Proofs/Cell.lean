import Gridcalc.Sheet.Cell
import Mathlib.Data.List.DropRight
import Mathlib.Data.List.TakeWhile

/-! # Cells as they are entered

What is typed into a cell is trimmed first, and trimming it again changes nothing
(`Text.trim_trim`).  So a cell without a formula is blank, or holds and shows a trimmed text
(`Cell.Plain`).
-/
namespace Gridcalc
namespace Text

/-! ### Trimming -/

theorem trimEnd_eq_rdropWhile (cs : List Char) : trimEnd cs = cs.rdropWhile isBlank :=
  trimEnd_eq_reverse cs

/-- What begins with no blank still does when its end is trimmed. -/
theorem trimStart_trimEnd {cs : List Char} (h : trimStart cs = cs) :
    trimStart (trimEnd cs) = trimEnd cs := by
  rw [trimEnd_eq_rdropWhile]
  refine List.dropWhile_eq_self_iff.mpr fun hlength => ?_
  have hpre : cs.rdropWhile isBlank <+: cs := List.rdropWhile_prefix isBlank cs
  rw [hpre.getElem hlength]
  exact List.dropWhile_eq_self_iff.mp h (hlength.trans_le hpre.length_le)

/-- **Trimming twice is trimming once.** -/
theorem trim_trim (text : String) : trim (trim text) = trim text := by
  have hstart : ∀ cs : List Char, trimStart (trimStart cs) = trimStart cs :=
    List.dropWhile_idempotent isBlank
  have hend : ∀ cs : List Char, trimEnd (trimEnd cs) = trimEnd cs := fun cs => by
    rw [trimEnd_eq_rdropWhile, trimEnd_eq_rdropWhile, List.rdropWhile_idempotent]
  have hchars : trimChars (trimChars text.toList) = trimChars text.toList := by
    rw [trimChars, trimChars, trimStart_trimEnd (hstart _), hend]
  rw [trim, trim, String.toList_ofList, hchars]

end Text

namespace Cell

/-! ### Cells without a formula -/

/-- **A cell without a formula as it was entered**: blank, or a trimmed text that shows itself. -/
inductive Plain : Cell → Prop
  | blank : Plain .blank
  | literal {text : String} : text ≠ "" → Text.trim text = text → isFormulaText text = false →
      Plain (.literal text)

theorem Plain.formula?_eq_none {cell : Cell} (h : cell.Plain) : cell.formula? = none := by
  cases h with
  | blank => rfl
  | @literal text _ _ htext =>
    show (some text).filter isFormulaText = none
    rw [Option.filter_some, htext]
    rfl

/-- A cell without a formula is the one of its text. -/
theorem Plain.ofInput_inputText {cell : Cell} (h : cell.Plain) : ofInput cell.inputText = cell := by
  cases h with
  | blank => rfl
  | @literal text hne htrim htext =>
    show ofInput text = .literal text
    simp only [ofInput, htrim, htext, String.isEmpty_iff, hne, Bool.false_eq_true, if_false]

/-! ### Formulas -/

theorem formula?_formula {text : String} (h : isFormulaText text = true) :
    (formula text).formula? = some text := by
  show (some text).filter isFormulaText = some text
  rw [Option.filter_some, h]
  rfl

/-- A trimmed text that begins with an equals sign is entered as it is. -/
theorem ofInput_of_isFormulaText {text : String} (htrim : Text.trim text = text)
    (h : isFormulaText text = true) : ofInput text = .formula text := by
  have hne : text.isEmpty = false := by
    refine Bool.eq_false_iff.mpr fun hempty => ?_
    rw [String.isEmpty_iff.mp hempty] at h
    exact absurd h (by decide)
  simp only [ofInput, htrim, hne, h, Bool.false_eq_true, if_false, if_true]

/-- A formula that was entered is the trimmed text, and has not been computed. -/
theorem eq_formula_of_formula? {typed text : String} (h : (ofInput typed).formula? = some text) :
    text = Text.trim typed ∧ isFormulaText text = true ∧ ofInput typed = .formula text := by
  unfold ofInput at h ⊢
  simp only at h ⊢
  split at h
  · cases h
  · rename_i hempty
    rw [if_neg hempty]
    split at h
    · rename_i hformula
      rw [formula?_formula hformula] at h
      obtain rfl := Option.some.inj h
      exact ⟨rfl, hformula, if_pos hformula⟩
    · rename_i hformula
      have hnone : (literal (Text.trim typed)).formula? = none := by
        show (some (Text.trim typed)).filter isFormulaText = none
        rw [Option.filter_some, if_neg hformula]
      rw [hnone] at h
      cases h

/-- What is typed is a formula when its trimmed text is one. -/
theorem formula?_ofInput (typed : String) :
    (ofInput typed).formula? = (some (Text.trim typed)).filter isFormulaText := by
  unfold ofInput
  simp only
  split
  · rename_i hempty
    rw [String.isEmpty_iff.mp hempty]
    rfl
  · split <;> rfl

/-! ### Texts that are no formulas -/

theorem plain_ofInput {typed : String} (h : (ofInput typed).formula? = none) :
    (ofInput typed).Plain := by
  unfold ofInput at h ⊢
  simp only at h ⊢
  split
  · exact .blank
  · rename_i hempty
    split
    · rename_i hformula
      rw [if_neg hempty, if_pos hformula] at h
      simp [formula?, formula, hformula] at h
    · rename_i hformula
      exact .literal (by simpa using hempty) (Text.trim_trim typed) (by simpa using hformula)

end Cell
end Gridcalc
