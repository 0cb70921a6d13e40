import Gridcalc.Formula.Value

/-! # Values and their texts

A cell shows a value as a text and hands the text on.  For an integer nothing is lost by that: its
digits, with a sign in front if it is negative, spell the integer that they were printed from
(`integer?_toString`).  So a number and its text count as the same number
(`Value.toNumber_text_display`), although not always as the same truth value.
-/
namespace Gridcalc

theorem toList_toString_ofNat (n : Nat) : (toString (Int.ofNat n)).toList = Nat.toDigits 10 n := by
  show (Nat.repr n).toList = _
  simp

theorem toList_toString_negSucc (n : Nat) :
    (toString (Int.negSucc n)).toList = '-' :: Nat.toDigits 10 (n + 1) := by
  show ("-" ++ Nat.repr (n + 1)).toList = _
  simp

theorem isDigit_of_mem_toDigits {n : Nat} {c : Char} (h : c ∈ Nat.toDigits 10 n) :
    c.isDigit = true :=
  Nat.isDigit_of_mem_toDigits (by decide) (by decide) h

theorem all_isDigit_toDigits (n : Nat) : (Nat.toDigits 10 n).all Char.isDigit = true :=
  List.all_eq_true.mpr fun _ => isDigit_of_mem_toDigits

/-- Digits without a sign spell their number. -/
theorem integer?_toDigits (n : Nat) : integer? (Nat.toDigits 10 n) = some (Int.ofNat n) := by
  have hdigits := all_isDigit_toDigits n
  have hvalue : Nat.ofDigitChars 10 (Nat.toDigits 10 n) 0 = n := Nat.ofDigitChars_ten_toDigits
  cases hchars : Nat.toDigits 10 n with
  | nil => exact absurd hchars Nat.toDigits_ne_nil
  | cons c rest =>
    rw [hchars] at hdigits hvalue
    have hc : c.isDigit = true := List.all_eq_true.mp hdigits c List.mem_cons_self
    have hplus : c ≠ '+' := by
      rintro rfl
      exact absurd hc (by decide)
    have hminus : c ≠ '-' := by
      rintro rfl
      exact absurd hc (by decide)
    simp [integer?, hplus, hminus, hdigits, hvalue]

/-- **The text of an integer spells that integer.** -/
theorem integer?_toString (n : Int) : integer? (toString n).toList = some n := by
  cases n with
  | ofNat n => rw [toList_toString_ofNat, integer?_toDigits]
  | negSucc n =>
    have hvalue : Nat.ofDigitChars 10 (Nat.toDigits 10 (n + 1)) 0 = n + 1 :=
      Nat.ofDigitChars_ten_toDigits
    rw [toList_toString_negSucc]
    simp only [integer?, all_isDigit_toDigits, hvalue, List.head?_cons, if_true]
    simp [Int.negSucc_eq]

/-- **A number and its text count as the same number.** -/
theorem Value.toNumber_text_display (n : Int) :
    (Value.text (Value.number n).display).toNumber = n := by
  show (integer? (toString n).toList).getD 0 = n
  rw [integer?_toString]
  rfl

end Gridcalc
