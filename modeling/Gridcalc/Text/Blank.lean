/-! # Blank characters and trimming

A sheet line and a cell input are trimmed of every character with the Unicode
property `White_Space`. This is a larger class than the blanks a formula skips,
which are ASCII (`Gridcalc.Formula.Lexer`). -/

namespace Gridcalc.Text

/-- The characters with the property `White_Space`. -/
def isBlank (c : Char) : Bool :=
  let n := c.toNat
  (9 ≤ n && n ≤ 13) || n == 0x20 || n == 0x85 || n == 0xA0 || n == 0x1680 ||
    (0x2000 ≤ n && n ≤ 0x200A) || n == 0x2028 || n == 0x2029 || n == 0x202F ||
    n == 0x205F || n == 0x3000

/-- A list of characters without the blanks at its front. -/
def trimStart (cs : List Char) : List Char := cs.dropWhile isBlank

/-- A list of characters without the blanks at its end. One that ends in no blank is
returned as it is, which spares a long text two reversals. -/
def trimEnd (cs : List Char) : List Char :=
  if cs.getLast?.any isBlank then (cs.reverse.dropWhile isBlank).reverse else cs

/-- Trimming the end is trimming the start of the reversed list. -/
theorem trimEnd_eq_reverse (cs : List Char) :
    trimEnd cs = (cs.reverse.dropWhile isBlank).reverse := by
  unfold trimEnd
  split
  · rfl
  · rename_i h
    rw [← List.head?_reverse] at h
    cases hr : cs.reverse with
    | nil => simp_all
    | cons c rest =>
      have hc : isBlank c = false := by simpa [hr] using h
      rw [List.dropWhile_cons, hc, if_neg (by simp), ← hr, List.reverse_reverse]

/-- A list of characters without the blanks at either end. -/
def trimChars (cs : List Char) : List Char := trimEnd (trimStart cs)

/-- A text without the blanks at either end. -/
def trim (text : String) : String := String.ofList (trimChars text.toList)

end Gridcalc.Text
