/-! # Cutting text into lines and fields

A line ends at a line feed, and a carriage return just before that line feed belongs
to the line end. Text after the last line feed is a line of its own unless it is
empty, so a final line feed opens no further line. Fields have marks between them, and
none of them is dropped. -/

namespace Gridcalc.Text

/-- The part before the first occurrence of a character and the part after it, or
nothing when the character does not occur. -/
def cutAt (mark : Char) (cs : List Char) : Option (List Char × List Char) :=
  match cs.dropWhile (· != mark) with
  | [] => none
  | _ :: rest => some (cs.takeWhile (· != mark), rest)

/-- What is left after the mark is shorter than the whole. -/
theorem length_of_cutAt {mark : Char} {cs before after : List Char}
    (h : cutAt mark cs = some (before, after)) : after.length < cs.length := by
  have hle : (cs.dropWhile (· != mark)).length ≤ cs.length :=
    (List.dropWhile_sublist _).length_le
  simp only [cutAt] at h
  split at h
  · simp at h
  · rename_i x rest hd
    simp only [Option.some.injEq, Prod.mk.injEq] at h
    rw [hd, List.length_cons] at hle
    rw [← h.2]
    omega

/-- A line without a carriage return at its end. -/
def dropCarriageReturn (line : List Char) : List Char :=
  if line.getLast? = some '\r' then line.dropLast else line

/-- The lines of a text, in order. -/
def lines (cs : List Char) : List (List Char) :=
  match _h : cutAt '\n' cs with
  | some (line, rest) => dropCarriageReturn line :: lines rest
  | none => if cs.isEmpty then [] else [cs]
termination_by cs.length
decreasing_by exact length_of_cutAt (by assumption)

/-- The fields of a text between marks. There is one more of them than of marks. -/
def fields (mark : Char) (text : String) : List String :=
  (text.toList.splitOn mark).map String.ofList

/-- Lines of text put together, each one closed by a line feed. -/
def unlines (ls : List String) : String := String.join (ls.map (· ++ "\n"))

end Gridcalc.Text
