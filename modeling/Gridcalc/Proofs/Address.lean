import Gridcalc.Address.Basic
import Mathlib.Logic.Function.Basic

/-! # Addresses name cells

Column letters are a numeral system without a zero, so a column number can be read off
its letters (`columnNumber_columnLetters`).  An address is such letters followed by
decimal digits, and no character is both; hence letters and digits can be told apart
again, and two cells never share an address (`CellRef.address_injective`).

Not every cell can be named in a formula: the numbers of the last column and of the last
row are beyond `CellRef.limit` (`CellRef.parse_address`).  A cell whose address reads back is
*named* (`CellRef.Named`), and every cell that `CellRef.parse` returns is
(`CellRef.named_of_parse`).
A text is *canonical* when it is the address of such a cell.  The dependency graph knows
cells by canonical texts only, so this is what connects its nodes with the sheet.
-/
namespace Gridcalc
namespace Address

/-! ### Columns -/

theorem letterValue_capital {digit : Nat} (h : digit < 26) :
    letterValue (capital digit) = digit + 1 := by
  have key : ∀ d : Fin 26, letterValue (capital d.val) = d.val + 1 := by decide
  exact key ⟨digit, h⟩

theorem isAlpha_capital {digit : Nat} (h : digit < 26) : (capital digit).isAlpha = true := by
  have key : ∀ d : Fin 26, (capital d.val).isAlpha = true := by decide
  exact key ⟨digit, h⟩

theorem columnNumber_concat (letters : List Char) (c : Char) :
    columnNumber (letters ++ [c]) = 26 * columnNumber letters + letterValue c := by
  simp [columnNumber]

/-- **The letters of a column number spell that number.** -/
theorem columnNumber_columnLetters (number : Nat) :
    columnNumber (columnLetters number) = number := by
  induction number using columnLetters.induct with
  | case1 => simp [columnLetters, columnNumber]
  | case2 number ih =>
    have hlt : number % 26 < 26 := Nat.mod_lt _ (by decide)
    rw [columnLetters, columnNumber_concat, ih, letterValue_capital hlt]
    omega

/-- Column letters are capital letters. -/
theorem exists_capital_of_mem_columnLetters {number : Nat} {c : Char}
    (h : c ∈ columnLetters number) : ∃ digit < 26, c = capital digit := by
  induction number using columnLetters.induct with
  | case1 => simp [columnLetters] at h
  | case2 number ih =>
    rw [columnLetters, List.mem_append, List.mem_singleton] at h
    rcases h with h | rfl
    · exact ih h
    · exact ⟨_, Nat.mod_lt _ (by decide), rfl⟩

theorem isAlpha_of_mem_columnLetters {number : Nat} {c : Char}
    (h : c ∈ columnLetters number) : c.isAlpha = true := by
  obtain ⟨digit, hdigit, rfl⟩ := exists_capital_of_mem_columnLetters h
  exact isAlpha_capital hdigit

theorem toUpper_of_mem_columnLetters {number : Nat} {c : Char}
    (h : c ∈ columnLetters number) : c.toUpper = c := by
  obtain ⟨digit, hdigit, rfl⟩ := exists_capital_of_mem_columnLetters h
  have key : ∀ d : Fin 26, (capital d.val).toUpper = capital d.val := by decide
  exact key ⟨digit, hdigit⟩

theorem columnLetters_succ_ne_nil (number : Nat) : columnLetters (number + 1) ≠ [] := by
  simp [columnLetters]

/-- Letters put a nonzero digit in every place. -/
theorem columnNumber_pos {letters : List Char} (h : letters ≠ []) :
    0 < columnNumber letters := by
  obtain ⟨front, c, rfl⟩ := (List.eq_nil_or_concat letters).resolve_left h
  rw [List.concat_eq_append, columnNumber_concat]
  unfold letterValue
  omega

end Address

namespace CellRef
open Address

/-! ### Letters and digits of an address -/

theorem isAlpha_eq_false_of_isDigit {c : Char} (h : c.isDigit = true) : c.isAlpha = false := by
  obtain ⟨-, hle⟩ := Char.isDigit_iff_toNat.mp h
  have hnine : '9'.toNat = 57 := rfl
  have hupper : ¬ 'A'.val ≤ c.val := by
    intro hA
    have hnat : 65 ≤ c.toNat := UInt32.le_iff_toNat_le.mp hA
    omega
  have hlower : ¬ 'a'.val ≤ c.val := by
    intro ha
    have hnat : 97 ≤ c.toNat := UInt32.le_iff_toNat_le.mp ha
    omega
  show (decide ('A'.val ≤ c.val ∧ c.val ≤ 'Z'.val) ||
    (decide ('a'.val ≤ c.val) && decide (c.val ≤ 'z'.val))) = false
  rw [decide_eq_false (fun hA => hupper hA.1), decide_eq_false hlower]
  rfl

theorem toList_address (cell : CellRef) :
    cell.address.toList =
      columnLetters (cell.col.toNat + 1) ++ Nat.toDigits 10 (cell.row.toNat + 1) := by
  simp [address]

theorem toList_address_ne_nil (cell : CellRef) : cell.address.toList ≠ [] := by
  rw [toList_address]
  exact List.append_ne_nil_of_left_ne_nil (columnLetters_succ_ne_nil _) _

theorem takeWhile_isAlpha_toDigits (number : Nat) :
    (Nat.toDigits 10 number).takeWhile Char.isAlpha = [] := by
  cases hdigits : Nat.toDigits 10 number with
  | nil => rfl
  | cons c rest =>
    have hc : c.isDigit = true :=
      Nat.isDigit_of_mem_toDigits (b := 10) (n := number) (by decide) (by decide)
        (by simp [hdigits])
    simp [isAlpha_eq_false_of_isDigit hc]

theorem takeWhile_address (cell : CellRef) :
    cell.address.toList.takeWhile Char.isAlpha = columnLetters (cell.col.toNat + 1) := by
  rw [toList_address, List.takeWhile_append_of_pos fun _ h => isAlpha_of_mem_columnLetters h,
    takeWhile_isAlpha_toDigits, List.append_nil]

theorem dropWhile_address (cell : CellRef) :
    cell.address.toList.dropWhile Char.isAlpha = Nat.toDigits 10 (cell.row.toNat + 1) := by
  have h := List.takeWhile_append_dropWhile (p := Char.isAlpha) (l := cell.address.toList)
  rw [takeWhile_address] at h
  exact List.append_cancel_left (h.trans (toList_address cell))

/-- **No two cells share an address.** -/
theorem address_injective : Function.Injective address := by
  intro a b h
  have hcol := congrArg (fun text : String => columnNumber (text.toList.takeWhile Char.isAlpha)) h
  have hrow := congrArg
    (fun text : String => Nat.ofDigitChars 10 (text.toList.dropWhile Char.isAlpha) 0) h
  simp only [takeWhile_address, columnNumber_columnLetters] at hcol
  simp only [dropWhile_address, Nat.ofDigitChars_ten_toDigits] at hrow
  obtain ⟨row, col⟩ := a
  obtain ⟨row', col'⟩ := b
  have h1 : row = row' := UInt64.toNat_inj.mp (Nat.succ.inj hrow)
  have h2 : col = col' := UInt64.toNat_inj.mp (Nat.succ.inj hcol)
  rw [h1, h2]

/-! ### Named cells -/

/-- The address of the cell reads back. -/
def Named (cell : CellRef) : Prop := parse cell.address = .ok cell

/-- The cell is in the last column or the last row. -/
def IsLast (cell : CellRef) : Prop := cell.col.toNat = limit ∨ cell.row.toNat = limit

instance (cell : CellRef) : Decidable cell.IsLast :=
  inferInstanceAs (Decidable (cell.col.toNat = limit ∨ cell.row.toNat = limit))

/-- What is wrong with the address of a last cell.  The column is read first. -/
def lastFault (cell : CellRef) : AddressFault :=
  if cell.col.toNat = limit then .columnOverflow else .invalidRow

theorem toNat_le_limit (number : UInt64) : number.toNat ≤ limit :=
  Nat.le_of_lt_succ number.toNat_lt

/-- **The address of a cell reads back, except in the last column and the last row.** -/
theorem parse_address (cell : CellRef) : parse cell.address =
    if cell.IsLast then .error ⟨cell.lastFault, cell.address⟩ else .ok cell := by
  have hdigits : (Nat.toDigits 10 (cell.row.toNat + 1)).all Char.isDigit = true :=
    List.all_eq_true.mpr fun _ h => Nat.isDigit_of_mem_toDigits (by decide) (by decide) h
  have hbeyond : ∀ number : UInt64, limit < number.toNat + 1 ↔ number.toNat = limit := fun number =>
    ⟨fun h => Nat.le_antisymm (toNat_le_limit number) (Nat.le_of_lt_succ h),
      fun h => h ▸ Nat.lt_succ_self _⟩
  unfold parse
  simp only [takeWhile_address, dropWhile_address, columnNumber_columnLetters,
    Nat.ofDigitChars_ten_toDigits, List.isEmpty_eq_false_iff.mpr (columnLetters_succ_ne_nil _),
    List.isEmpty_eq_false_iff.mpr Nat.toDigits_ne_nil, hdigits, hbeyond, Bool.false_eq_true,
    if_false, Bool.not_true, Bool.false_or, Nat.add_one_ne_zero, decide_false, decide_eq_true_eq,
    Nat.add_sub_cancel, UInt64.ofNat_toNat]
  unfold IsLast lastFault
  by_cases hcol : cell.col.toNat = limit
  · simp only [hcol, true_or, if_true]
  · simp only [hcol, false_or, if_false]

theorem named_iff {cell : CellRef} : cell.Named ↔ ¬ cell.IsLast := by
  rw [Named, parse_address]
  split <;> simp [*]

/-- **An address reads back as its cell or not at all.** -/
theorem eq_of_parse_address {cell found : CellRef} (h : parse cell.address = .ok found) :
    found = cell := by
  rw [parse_address] at h
  split at h
  · cases h
  · exact (Except.ok.inj h).symm

/-- **A cell that was named once reads back from its address.** -/
theorem named_of_parse {text : String} {cell : CellRef} (h : parse text = .ok cell) :
    cell.Named := by
  unfold parse at h
  simp only at h
  split at h
  · cases h
  · rename_i hletters
    split at h
    · cases h
    · split at h
      · cases h
      · rename_i hcol
        split at h
        · cases h
        · rename_i hrow
          simp only [Bool.or_eq_true, decide_eq_true_eq, not_or] at hrow
          have hpos := columnNumber_pos fun hnil => hletters (List.isEmpty_iff.mpr hnil)
          simp only [Except.ok.injEq] at h
          subst h
          unfold limit at hcol hrow
          rw [named_iff, IsLast, limit, UInt64.toNat_ofNat_of_lt' (by rw [UInt64.size]; omega),
            UInt64.toNat_ofNat_of_lt' (by rw [UInt64.size]; omega)]
          omega

end CellRef

/-- The text is the address of the cell that it names. -/
def Address.Canonical (text : String) : Prop :=
  ∃ cell, CellRef.parse text = .ok cell ∧ cell.address = text

theorem CellRef.Named.canonical {cell : CellRef} (h : cell.Named) :
    Address.Canonical cell.address := ⟨cell, h, rfl⟩

theorem Address.canonical_of_parse {text : String} {cell : CellRef}
    (h : CellRef.parse text = .ok cell) : Canonical cell.address :=
  (CellRef.named_of_parse h).canonical

end Gridcalc
