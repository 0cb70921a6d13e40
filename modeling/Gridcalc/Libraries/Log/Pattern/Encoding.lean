import Gridcalc.Libraries.Text.Ranges

/-! # Encodings of characters

Automata read bytes, and a range of characters is to them a list of sequences of byte ranges.
Sequences that begin alike can be read together. -/

namespace Gridcalc.Log.Pattern

/-- Bytes in a row. -/
abbrev ByteRange := Nat × Nat

/-- How many codes the bytes behind a lead byte tell apart. -/
def codesBehind : Nat → Nat
  | 0 => 1
  | count + 1 => 64 * codesBehind count

/-- The encodings of a range of codes as sequences of byte ranges, in increasing order. There
are so many bytes behind the lead byte, which counts from the given one. -/
def byteRanges (lead : Nat) : Nat → Nat → Nat → List (List ByteRange)
  | 0, low, high => [[(lead + low, lead + high)]]
  | count + 1, low, high =>
    let size := codesBehind (count + 1)
    let first := low / size
    let last := high / size
    let under (top low high : Nat) : List (List ByteRange) :=
      (byteRanges 0x80 count low high).map ((lead + top, lead + top) :: ·)
    if first = last then under first (low % size) (high % size)
    else
      let isOpen := low % size ≠ 0
      let isShort := high % size ≠ size - 1
      let start := if isOpen then first + 1 else first
      let stop := if isShort then last - 1 else last
      let whole := List.replicate (count + 1) (0x80, 0xBF)
      (if isOpen then under first (low % size) (size - 1) else []) ++
        (if start ≤ stop then [(lead + start, lead + stop) :: whole] else []) ++
        (if isShort then under last 0 (high % size) else [])

/-- The codes with encodings of one length: the range, the lead byte to count from, and how
many bytes are behind it. -/
def encodingLengths : List ((Nat × Nat) × Nat × Nat) :=
  [((0, 0x7F), 0, 0), ((0x80, 0x7FF), 0xC0, 1), ((0x800, 0xD7FF), 0xE0, 2),
   ((0xE000, 0xFFFF), 0xE0, 2), ((0x10000, 0x10FFFF), 0xF0, 3)]

/-- The encodings of a range of characters. -/
def encodings (range : Nat × Nat) : List (List ByteRange) :=
  encodingLengths.flatMap fun (codes, lead, count) =>
    match Text.overlap? codes range with
    | some (low, high) => byteRanges lead count low high
    | none => []

/-- The lists of a sorted list by their heads, and what is behind them. -/
def byHead {α : Type} [BEq α] : List (List α) → List (α × List (List α))
  | [] => []
  | [] :: lists => byHead lists
  | (head :: tail) :: lists =>
    match byHead lists with
    | (next, tails) :: groups =>
      if next == head then (head, tail :: tails) :: groups
      else (head, [tail]) :: (next, tails) :: groups
    | [] => [(head, [tail])]

end Gridcalc.Log.Pattern
