/-! # Ranges of code points

A set of code points is written as closed ranges. Most lists of ranges here are *sorted*:
in increasing order, with at least one code point between two of them. -/

namespace Gridcalc.Text

/-- The last code point. -/
def lastCode : Nat := 0x10FFFF

/-- The code point behind that of a character. Between the two of them stand surrogates, which
are no characters, if any. -/
def nextCode (code : Nat) : Nat := if code = 0xD7FF then 0xE000 else code + 1

/-- The code point in front of that of a character, surrogates apart. -/
def previousCode (code : Nat) : Nat := if code = 0xE000 then 0xD7FF else code - 1

/-- Ranges in the order of their starts behind a first one, joined where they meet. -/
def joinRanges (current : Nat × Nat) : List (Nat × Nat) → List (Nat × Nat)
  | [] => [current]
  | next :: rest =>
    if next.1 ≤ current.2 + 1 then joinRanges (current.1, Nat.max current.2 next.2) rest
    else current :: joinRanges next rest

/-- The union of ranges, sorted. -/
def unionRanges (ranges : List (Nat × Nat)) : List (Nat × Nat) :=
  match ranges.mergeSort (fun a b => decide (a.1 ≤ b.1)) with
  | [] => []
  | first :: rest => joinRanges first rest

/-- The gaps behind a code point and between sorted ranges. Surrogates between two ranges are a
gap without a character, which is given by the characters at its sides. -/
def gapsBehind (code : Nat) : List (Nat × Nat) → List (Nat × Nat)
  | [] => if code < lastCode then [(nextCode code, lastCode)] else []
  | (low, high) :: rest =>
    let first := nextCode code
    let last := previousCode low
    (Nat.min first last, Nat.max first last) :: gapsBehind high rest

/-- The characters that are not in ranges, sorted. -/
def complementRanges (ranges : List (Nat × Nat)) : List (Nat × Nat) :=
  match unionRanges ranges with
  | [] => [(0, lastCode)]
  | (low, high) :: rest =>
    (if 0 < low then [(0, previousCode low)] else []) ++ gapsBehind high rest

/-- What two ranges have in common. -/
def overlap? (a b : Nat × Nat) : Option (Nat × Nat) :=
  let low := Nat.max a.1 b.1
  let high := Nat.min a.2 b.2
  if low ≤ high then some (low, high) else none

/-- The code points that two lists of ranges have in common. -/
def commonRanges (a b : List (Nat × Nat)) : List (Nat × Nat) :=
  a.flatMap fun range => b.filterMap (overlap? range)

/-- What is left of a range when sorted ranges are taken out. -/
def cutRange (range : Nat × Nat) : List (Nat × Nat) → List (Nat × Nat)
  | [] => [range]
  | cut :: cuts =>
    if (overlap? range cut).isNone then cutRange range cuts
    else
      (if range.1 < cut.1 then [(range.1, previousCode cut.1)] else []) ++
        (if cut.2 < range.2 then cutRange (nextCode cut.2, range.2) cuts else [])

/-- The characters of the first ranges that are not in the second ones, sorted. -/
def differenceRanges (a b : List (Nat × Nat)) : List (Nat × Nat) :=
  let cuts := unionRanges b
  (unionRanges a).flatMap (cutRange · cuts)

end Gridcalc.Text
