import Gridcalc.Proofs.Address
import Gridcalc.Proofs.Text.Numeral
import Mathlib

/-! # The language of addresses

An address is letters and then digits.  The letters stand for a number in base 26 whose digits go
from 1 to 26 (`Address.column`), the digits for a decimal number, and either number has to fit into
64 bits (`CellRef.Spelled`).  Whatever is spelled so is read as that cell, and any other text is
refused for a reason that can be told from the place where its letters end (`CellRef.Refused`).
These are all the answers there are (`CellRef.parse_exact`).

Since every number has one spelling in capital letters, printing the cell again gives the letters of
the text back as capitals, and its digits without zeros in front.
-/
namespace Gridcalc
namespace Address

/-! ### Letters -/

/-- The letters in the order of their values. -/
def alphabet : List Char := "ABCDEFGHIJKLMNOPQRSTUVWXYZ".toList

/-- The place of a letter in the alphabet, counted from one. -/
def letterPlace (c : Char) : Nat := alphabet.idxOf c.toUpper + 1

/-- **The number that letters stand for** in bijective base 26. -/
def column (letters : List Char) : Nat := Text.numeral 26 letterPlace letters

variable {cs letters digits rest front : List Char} {c : Char}

/-- A letter is one of the 26 capitals or of the 26 small letters. -/
theorem letter_cases (h : c.isAlpha = true) :
    ∃ digit : Fin 26, c = capital digit ∨ c = Char.ofNat ('a'.toNat + digit) := by
  simp only [Char.isAlpha, Char.isUpper, Char.isLower, Bool.or_eq_true, Bool.and_eq_true,
    decide_eq_true_eq, UInt32.le_iff_toNat_le, ge_iff_le] at h
  have hcode : c.val.toNat = c.toNat := rfl
  have hA : 'A'.val.toNat = 65 := rfl
  have hZ : 'Z'.val.toNat = 90 := rfl
  have ha : 'a'.val.toNat = 97 := rfl
  have hz : 'z'.val.toNat = 122 := rfl
  rw [hcode, hA, hZ, ha, hz] at h
  rcases h with h | h
  · refine ⟨⟨c.toNat - 65, by omega⟩, Or.inl ?_⟩
    rw [capital, show 'A'.toNat + (c.toNat - 65) = c.toNat from Nat.add_sub_cancel' h.1,
      Char.ofNat_toNat]
  · refine ⟨⟨c.toNat - 97, by omega⟩, Or.inr ?_⟩
    rw [show 'a'.toNat + (c.toNat - 97) = c.toNat from Nat.add_sub_cancel' h.1, Char.ofNat_toNat]

/-- The capital of a letter is that of its digit, which is its place in the alphabet. -/
theorem exists_digit_of_isAlpha (h : c.isAlpha = true) :
    ∃ digit < 26, c.toUpper = capital digit ∧ letterValue c = digit + 1 ∧
      letterPlace c = digit + 1 := by
  have hcapital : ∀ d : Fin 26, (capital d).toUpper = capital d ∧
      letterValue (capital d) = d + 1 ∧ letterPlace (capital d) = d + 1 := by decide
  have hsmall : ∀ d : Fin 26, (Char.ofNat ('a'.toNat + d)).toUpper = capital d ∧
      letterValue (Char.ofNat ('a'.toNat + d)) = d + 1 ∧
      letterPlace (Char.ofNat ('a'.toNat + d)) = d + 1 := by decide
  obtain ⟨digit, rfl | rfl⟩ := letter_cases h
  · exact ⟨digit, digit.isLt, hcapital digit⟩
  · exact ⟨digit, digit.isLt, hsmall digit⟩

theorem columnNumber_eq_column (h : ∀ c ∈ letters, c.isAlpha = true) :
    columnNumber letters = column letters := by
  rw [columnNumber, Text.foldl_eq_numeral, column, Text.numeral, Text.numeral]
  refine congrArg (Nat.ofDigits 26) (List.map_congr_left fun c hc => ?_)
  obtain ⟨digit, -, -, hvalue, hplace⟩ := exists_digit_of_isAlpha (h c (List.mem_reverse.mp hc))
  rw [hvalue, hplace]

/-- **The letters of the number that letters stand for are these letters, as capitals.** -/
theorem columnLetters_columnNumber (h : ∀ c ∈ letters, c.isAlpha = true) :
    columnLetters (columnNumber letters) = letters.map Char.toUpper := by
  induction letters using List.reverseRecOn with
  | nil => simp [columnLetters, columnNumber]
  | append_singleton front c ih =>
    obtain ⟨digit, hdigit, hcapital, hvalue, -⟩ := exists_digit_of_isAlpha (h c (by simp))
    have hnumber : columnNumber (front ++ [c]) = 26 * columnNumber front + digit + 1 := by
      rw [columnNumber_concat, hvalue, Nat.add_assoc]
    rw [hnumber, columnLetters, List.map_append, List.map_singleton, hcapital,
      show (26 * columnNumber front + digit) / 26 = columnNumber front by omega,
      show (26 * columnNumber front + digit) % 26 = digit by omega,
      ih fun d hd => h d (List.mem_append_left _ hd)]

/-! ### Where the letters end -/

/-- The letters at the front of a text and what comes behind them. -/
structure Parted (cs letters rest : List Char) : Prop where
  split : cs = letters ++ rest
  alpha : ∀ c ∈ letters, c.isAlpha = true
  stop : ∀ c ∈ rest.head?, c.isAlpha = false

/-- Letters and then digits, some of each. -/
structure LettersThenDigits (cs letters digits : List Char) : Prop where
  split : cs = letters ++ digits
  letters_ne_nil : letters ≠ []
  alpha : ∀ c ∈ letters, c.isAlpha = true
  digits_ne_nil : digits ≠ []
  digit : ∀ c ∈ digits, c.isDigit = true

theorem parted_spans (cs : List Char) :
    Parted cs (cs.takeWhile Char.isAlpha) (cs.dropWhile Char.isAlpha) where
  split := List.takeWhile_append_dropWhile.symm
  alpha := fun _ hc => List.mem_takeWhile_imp hc
  stop := by
    intro c hc
    have hstop := List.head?_dropWhile_not Char.isAlpha cs
    rw [hc] at hstop
    exact hstop

theorem Parted.takeWhile (h : Parted cs letters rest) : cs.takeWhile Char.isAlpha = letters := by
  rw [h.split, List.takeWhile_append_of_pos h.alpha]
  cases hrest : rest with
  | nil => exact List.append_nil letters
  | cons c more =>
    have hc := h.stop c (by rw [hrest]; rfl)
    rw [List.takeWhile_cons_of_neg (by rw [hc]; exact Bool.false_ne_true), List.append_nil]

theorem Parted.dropWhile (h : Parted cs letters rest) : cs.dropWhile Char.isAlpha = rest := by
  have hspan := List.takeWhile_append_dropWhile (p := Char.isAlpha) (l := cs)
  rw [h.takeWhile] at hspan
  exact List.append_cancel_left (hspan.trans h.split)

theorem LettersThenDigits.parted (h : LettersThenDigits cs letters digits) :
    Parted cs letters digits where
  split := h.split
  alpha := h.alpha
  stop := fun c hc => CellRef.isAlpha_eq_false_of_isDigit (h.digit c (List.mem_of_mem_head? hc))

/-- Digits for a number from one up to the greatest of 64 bits. -/
structure IsRow (digits : List Char) : Prop where
  digit : ∀ c ∈ digits, c.isDigit = true
  pos : 0 < Text.decimal digits
  lt : Text.decimal digits < UInt64.size

end Address

namespace CellRef
open Address
variable {text name : String} {letters digits rest : List Char} {fault : AddressFault}
  {cell : CellRef}

/-! ### What is accepted and what is refused -/

/-- **The language of addresses**: letters and then digits, for a column and a row whose numbers
have at most 64 bits. -/
structure Spelled (text : String) (letters digits : List Char) : Prop where
  shape : LettersThenDigits text.toList letters digits
  column : column letters < UInt64.size
  row : IsRow digits

/-- **Why a text is no address.**  The reasons are told apart by where the letters end: there are
none, nothing comes behind them, their number is too large, or else what comes behind them is no row
number. -/
inductive Refused (text : String) : AddressFault → Prop
  | missingColumn {rest : List Char} : Parted text.toList [] rest → Refused text .missingColumn
  | missingRow {letters : List Char} : Parted text.toList letters [] → letters ≠ [] →
      Refused text .missingRow
  | columnOverflow {letters rest : List Char} : Parted text.toList letters rest → letters ≠ [] →
      rest ≠ [] → UInt64.size ≤ column letters → Refused text .columnOverflow
  | invalidRow {letters rest : List Char} : Parted text.toList letters rest → letters ≠ [] →
      rest ≠ [] → column letters < UInt64.size → ¬ IsRow rest → Refused text .invalidRow

theorem spelled_or_refused (text : String) :
    (∃ letters digits, Spelled text letters digits) ∨ ∃ fault, Refused text fault := by
  have hparted := parted_spans text.toList
  generalize text.toList.takeWhile Char.isAlpha = letters,
    text.toList.dropWhile Char.isAlpha = rest at hparted
  by_cases hletters : letters = []
  · exact Or.inr ⟨_, .missingColumn (hletters ▸ hparted)⟩
  by_cases hrest : rest = []
  · exact Or.inr ⟨_, .missingRow (hrest ▸ hparted) hletters⟩
  by_cases hcolumn : column letters < UInt64.size
  · by_cases hrow : IsRow rest
    · exact Or.inl ⟨letters, rest,
        ⟨hparted.split, hletters, hparted.alpha, hrest, hrow.digit⟩, hcolumn, hrow⟩
    · exact Or.inr ⟨_, .invalidRow hparted hletters hrest hcolumn hrow⟩
  · exact Or.inr ⟨_, .columnOverflow hparted hletters hrest (Nat.le_of_not_lt hcolumn)⟩

/-! ### Reading an address -/

theorem limit_lt_iff {number : Nat} : limit < number ↔ UInt64.size ≤ number := Iff.rfl

theorem isRow_iff : (!rest.all Char.isDigit || Text.decimal rest = 0 ||
    limit < Text.decimal rest) = false ↔ IsRow rest := by
  simp only [limit_lt_iff, Bool.or_eq_false_iff, Bool.not_eq_false', List.all_eq_true,
    decide_eq_false_iff_not, Nat.not_le]
  exact ⟨fun h => ⟨h.1.1, Nat.pos_of_ne_zero h.1.2, h.2⟩,
    fun h => ⟨⟨h.digit, Nat.ne_of_gt h.pos⟩, h.lt⟩⟩

/-- Reading an address, told from where its letters end. -/
theorem parse_of_parted (h : Parted text.toList letters rest) : parse text =
    if letters = [] then .error ⟨.missingColumn, text⟩
    else if rest = [] then .error ⟨.missingRow, text⟩
    else if limit < column letters then .error ⟨.columnOverflow, text⟩
    else if !rest.all Char.isDigit || Text.decimal rest = 0 || limit < Text.decimal rest then
      .error ⟨.invalidRow, text⟩
    else .ok ⟨.ofNat (Text.decimal rest - 1), .ofNat (column letters - 1)⟩ := by
  simp only [parse, h.takeWhile, h.dropWhile, columnNumber_eq_column h.alpha,
    Text.ofDigitChars_eq_decimal, List.isEmpty_iff]

theorem parse_of_spelled (h : Spelled text letters digits) : parse text =
    .ok ⟨.ofNat (Text.decimal digits - 1), .ofNat (column letters - 1)⟩ := by
  have hcolumn : ¬ limit < column letters := fun hlt =>
    Nat.not_le_of_lt h.column (limit_lt_iff.mp hlt)
  rw [parse_of_parted h.shape.parted, if_neg h.shape.letters_ne_nil, if_neg h.shape.digits_ne_nil,
    if_neg hcolumn, isRow_iff.mpr h.row, if_neg Bool.false_ne_true]

theorem parse_of_refused (h : Refused text fault) : parse text = .error ⟨fault, text⟩ := by
  cases h with
  | missingColumn hparted => rw [parse_of_parted hparted, if_pos rfl]
  | missingRow hparted hletters => rw [parse_of_parted hparted, if_neg hletters, if_pos rfl]
  | columnOverflow hparted hletters hrest hcolumn =>
    rw [parse_of_parted hparted, if_neg hletters, if_neg hrest, if_pos (limit_lt_iff.mpr hcolumn)]
  | invalidRow hparted hletters hrest hcolumn hrow =>
    rw [parse_of_parted hparted, if_neg hletters, if_neg hrest,
      if_neg fun hlt => Nat.not_le_of_lt hcolumn (limit_lt_iff.mp hlt),
      if_pos (Bool.not_eq_false _ ▸ mt isRow_iff.mp hrow)]

/-- What is spelled names the cell of these numbers, counted from zero. -/
theorem parse_eq_ok_of_spelled (h : Spelled text letters digits) : parse text = .ok cell ↔
    cell.col.toNat = column letters - 1 ∧ cell.row.toNat = Text.decimal digits - 1 := by
  have hcol : (UInt64.ofNat (column letters - 1)).toNat = column letters - 1 :=
    UInt64.toNat_ofNat_of_lt' (Nat.lt_of_le_of_lt (Nat.sub_le _ _) h.column)
  have hrow : (UInt64.ofNat (Text.decimal digits - 1)).toNat = Text.decimal digits - 1 :=
    UInt64.toNat_ofNat_of_lt' (Nat.lt_of_le_of_lt (Nat.sub_le _ _) h.row.lt)
  rw [parse_of_spelled h]
  constructor
  · intro he
    obtain rfl := Except.ok.inj he
    exact ⟨hcol, hrow⟩
  · rintro ⟨hc, hr⟩
    obtain ⟨row, col⟩ := cell
    rw [← hcol, UInt64.toNat_inj] at hc
    rw [← hrow, UInt64.toNat_inj] at hr
    exact congrArg Except.ok (CellRef.mk.injEq .. ▸ ⟨hr.symm, hc.symm⟩)

theorem exists_spelled_of_parse (h : parse text = .ok cell) :
    ∃ letters digits, Spelled text letters digits := by
  obtain hspelled | ⟨fault, hrefused⟩ := spelled_or_refused text
  · exact hspelled
  · rw [parse_of_refused hrefused] at h
    cases h

/-- **The canonical address has the letters as capitals and the digits without zeros in front.** -/
theorem toList_address_of_spelled (h : Spelled text letters digits)
    (hparse : parse text = .ok cell) :
    cell.address.toList = letters.map Char.toUpper ++ digits.dropWhile (· == '0') := by
  obtain ⟨hcol, hrow⟩ := (parse_eq_ok_of_spelled h).mp hparse
  have hnumber := columnNumber_eq_column h.shape.alpha
  have hpos := columnNumber_pos h.shape.letters_ne_nil
  rw [toList_address, hcol, hrow, ← hnumber, Nat.sub_add_cancel hpos, Nat.sub_add_cancel h.row.pos,
    columnLetters_columnNumber h.shape.alpha,
    Text.toDigits_decimal h.row.digit (Nat.ne_of_gt h.row.pos)]

theorem canonical_eq_ok : canonical text = .ok name ↔
    ∃ cell, parse text = .ok cell ∧ cell.address = name := by
  rw [canonical]
  cases parse text <;> simp [Except.map]

/-- **The reader of addresses accepts its language and nothing else.**  What is spelled as an
address is read as the cell of its two numbers, and has the same letters in capitals and the same
digits without leading zeros as its canonical address, which is the canonical address of itself.
Any other text is refused, for the first reason that applies. -/
theorem parse_exact (text : String) :
    (∀ cell : CellRef, parse text = .ok cell ↔ ∃ letters digits, Spelled text letters digits ∧
      cell.col.toNat = column letters - 1 ∧ cell.row.toNat = Text.decimal digits - 1) ∧
    (∀ error, parse text = .error error ↔ Refused text error.fault ∧ error.text = text) ∧
    (∀ name, canonical text = .ok name ↔ ∃ letters digits, Spelled text letters digits ∧
      name.toList = letters.map Char.toUpper ++ digits.dropWhile (· == '0')) ∧
    ∀ name, canonical text = .ok name → canonical name = .ok name := by
  refine ⟨fun cell => ?_, fun error => ?_, fun name => ?_, fun name hname => ?_⟩
  · constructor
    · intro h
      obtain ⟨letters, digits, hspelled⟩ := exists_spelled_of_parse h
      exact ⟨letters, digits, hspelled, (parse_eq_ok_of_spelled hspelled).mp h⟩
    · rintro ⟨letters, digits, hspelled, hcell⟩
      exact (parse_eq_ok_of_spelled hspelled).mpr hcell
  · constructor
    · intro h
      obtain ⟨letters, digits, hspelled⟩ | ⟨fault, hrefused⟩ := spelled_or_refused text
      · rw [parse_of_spelled hspelled] at h
        cases h
      · obtain rfl := Except.error.inj ((parse_of_refused hrefused).symm.trans h)
        exact ⟨hrefused, rfl⟩
    · rintro ⟨hrefused, htext⟩
      rw [parse_of_refused hrefused, ← htext]
  · rw [canonical_eq_ok]
    constructor
    · rintro ⟨cell, hparse, rfl⟩
      obtain ⟨letters, digits, hspelled⟩ := exists_spelled_of_parse hparse
      exact ⟨letters, digits, hspelled, toList_address_of_spelled hspelled hparse⟩
    · rintro ⟨letters, digits, hspelled, hname⟩
      refine ⟨_, parse_of_spelled hspelled, String.toList_injective ?_⟩
      rw [hname, toList_address_of_spelled hspelled (parse_of_spelled hspelled)]
  · obtain ⟨cell, hparse, rfl⟩ := canonical_eq_ok.mp hname
    exact canonical_eq_ok.mpr ⟨cell, named_of_parse hparse, rfl⟩

/-- An address in small letters, with zeros in front of the row. -/
theorem paddedAddress_canonical :
    canonical "zz007" = .ok "ZZ7" ∧ canonical "ZZ7" = .ok "ZZ7" := by
  have hname : canonical "zz007" = .ok "ZZ7" := by decide +kernel
  obtain ⟨-, -, -, hfixed⟩ := parse_exact "zz007"
  exact ⟨hname, hfixed "ZZ7" hname⟩

end CellRef
end Gridcalc
