import Mathlib.Data.List.Induction
import Mathlib.Data.List.TakeWhile
import Mathlib.Data.Nat.Digits.Defs

/-! # Numerals

The number that a run of characters stands for in some base is the sum of its digits, each times the
power of the base that belongs to its place (`Text.numeral`).  Readers add digits up from the left
instead, which comes to the same (`Text.foldl_eq_numeral`).

Decimal digits are printed again without the zeros in front of them (`Text.toDigits_decimal`).
-/
namespace Gridcalc.Text
variable {base n : Nat} {digit : Char → Nat} {digits front : List Char} {c : Char}

/-- **The number that characters stand for** in a base, when every character is a digit of some
value. -/
def numeral (base : Nat) (digit : Char → Nat) (cs : List Char) : Nat :=
  Nat.ofDigits base (cs.reverse.map digit)

theorem numeral_concat :
    numeral base digit (front ++ [c]) = base * numeral base digit front + digit c := by
  rw [numeral, List.reverse_append, List.reverse_singleton, List.singleton_append, List.map_cons,
    Nat.ofDigits_cons, Nat.add_comm]
  rfl

/-- **Adding up from the left gives the number.** -/
theorem foldl_eq_numeral (base : Nat) (digit : Char → Nat) (cs : List Char) :
    cs.foldl (fun number c => base * number + digit c) 0 = numeral base digit cs := by
  induction cs using List.reverseRecOn with
  | nil => rfl
  | append_singleton front c ih =>
    rw [List.foldl_append, ih, List.foldl_cons, List.foldl_nil, numeral_concat]

theorem digit_eq_zero_of_numeral_eq_zero (hbase : base ≠ 0) (h : numeral base digit digits = 0)
    (hc : c ∈ digits) : digit c = 0 :=
  Nat.digits_zero_of_eq_zero hbase h _
    (List.mem_map_of_mem (List.mem_reverse.mpr hc))

/-! ### Decimal numbers -/

/-- The number that decimal digits stand for. -/
def decimal (digits : List Char) : Nat := numeral 10 (fun c => c.toNat - '0'.toNat) digits

theorem ofDigitChars_eq_decimal (digits : List Char) :
    Nat.ofDigitChars 10 digits 0 = decimal digits := by
  rw [Nat.ofDigitChars_eq_foldl]
  exact foldl_eq_numeral 10 _ digits

/-- A digit is the character of its value. -/
theorem digitChar_of_isDigit (h : c.isDigit = true) :
    c.toNat - '0'.toNat < 10 ∧ Nat.digitChar (c.toNat - '0'.toNat) = c := by
  obtain ⟨hge, hle⟩ := Char.isDigit_iff_toNat.mp h
  have hzero : '0'.toNat = 48 := rfl
  have hnine : '9'.toNat = 57 := rfl
  have hlt : c.toNat - '0'.toNat < 10 := by omega
  refine ⟨hlt, Char.toNat_inj.mp ?_⟩
  rw [Nat.toNat_digitChar_of_lt_ten hlt]
  omega

/-- **Decimal digits are printed again as they are, without the zeros in front.** -/
theorem toDigits_decimal (hdigits : ∀ c ∈ digits, c.isDigit = true) (hpos : decimal digits ≠ 0) :
    Nat.toDigits 10 (decimal digits) = digits.dropWhile (· == '0') := by
  induction digits using List.reverseRecOn with
  | nil => exact absurd rfl hpos
  | append_singleton front c ih =>
    have hfront : ∀ d ∈ front, d.isDigit = true := fun d hd =>
      hdigits d (List.mem_append_left _ hd)
    obtain ⟨hlt, hchar⟩ := digitChar_of_isDigit (hdigits c (by simp))
    have hvalue : decimal (front ++ [c]) = 10 * decimal front + (c.toNat - '0'.toNat) :=
      numeral_concat
    have hlast : Nat.toDigits 10 (c.toNat - '0'.toNat) = [c] := by
      rw [Nat.toDigits_of_lt_base hlt, hchar]
    rw [List.dropWhile_append]
    by_cases hzero : decimal front = 0
    · -- Only zeros stand in front, and so the last digit is none.
      have hzeros : ∀ d ∈ front, (d == '0') = true := fun d hd => by
        have hd0 := digit_eq_zero_of_numeral_eq_zero (by decide) hzero hd
        obtain ⟨-, hdchar⟩ := digitChar_of_isDigit (hfront d hd)
        rw [hd0] at hdchar
        exact beq_iff_eq.mpr hdchar.symm
      have hc : (c == '0') = false := beq_eq_false_iff_ne.mpr fun hc0 => by
        rw [hvalue, hzero, hc0] at hpos
        exact hpos rfl
      rw [List.dropWhile_eq_nil_iff.mpr hzeros, List.isEmpty_nil, if_pos rfl, hvalue, hzero,
        Nat.mul_zero, Nat.zero_add, hlast]
      exact (List.dropWhile_cons_of_neg (p := (· == '0')) (Bool.eq_false_iff.mp hc)).symm
    · have hprinted := ih hfront hzero
      have hne : (front.dropWhile (· == '0')).isEmpty = false := by
        rw [← hprinted]
        exact List.isEmpty_eq_false_iff.mpr Nat.toDigits_ne_nil
      rw [hne, if_neg Bool.false_ne_true, ← hprinted, hvalue, ← hlast]
      exact (Nat.toDigits_append_toDigits (by decide) (Nat.pos_of_ne_zero hzero) hlt).symm

end Gridcalc.Text
