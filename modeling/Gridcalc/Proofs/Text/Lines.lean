import Gridcalc.Text.Lines
import Mathlib.Data.List.TakeWhile

/-! # Lines that are put together and cut apart again

A text is cut at the first mark (`cutAt_append`).  So lines come back from `unlines` as they were
(`lines_toList_unlines`), provided that none holds a line feed or ends in a carriage return: the
first would be cut apart, and the second would lose its end.  The other way round, a line never
holds a line feed (`not_mem_of_mem_lines`).

What the lines of a text are is also said without cutting it (`Lined`): a text has exactly one
list of lines in this sense, and it is the one that `lines` gives (`lined_iff`).
-/
namespace Gridcalc.Text
variable {mark : Char} {cs before after line rest : List Char} {ls : List (List Char)}

/-! ### Cutting at a mark -/

theorem bne_of_not_mem (h : mark ∉ cs) : ∀ c ∈ cs, (c != mark) = true := by
  intro c hc
  simp only [bne_iff_ne, ne_eq]
  rintro rfl
  exact h hc

/-- **A text is cut at the first mark.** -/
theorem cutAt_append (h : mark ∉ before) :
    cutAt mark (before ++ mark :: after) = some (before, after) := by
  have hbefore := bne_of_not_mem h
  rw [cutAt, List.dropWhile_append_of_pos hbefore, List.takeWhile_append_of_pos hbefore]
  simp

theorem eq_of_cutAt (h : cutAt mark cs = some (before, after)) : cs = before ++ mark :: after := by
  rw [cutAt] at h
  split at h
  · cases h
  · rename_i found rest hdrop
    obtain ⟨rfl, rfl⟩ := Prod.mk.inj (Option.some.inj h)
    -- The rest begins where the search stopped, and it stops at the mark only.
    have hfound : ¬ (found != mark) = true := by
      have hhead := List.head_dropWhile_not (· != mark) (l := cs) (by simp [hdrop])
      simpa [hdrop] using hhead
    obtain rfl : found = mark := by simpa using hfound
    rw [← hdrop, List.takeWhile_append_dropWhile]

theorem not_mem_of_cutAt (h : cutAt mark cs = some (before, after)) : mark ∉ before := by
  rw [cutAt] at h
  split at h
  · cases h
  · obtain ⟨rfl, -⟩ := Prod.mk.inj (Option.some.inj h)
    intro hmem
    simpa using List.mem_takeWhile_imp hmem

theorem not_mem_of_cutAt_eq_none (h : cutAt mark cs = none) : mark ∉ cs := by
  rw [cutAt] at h
  split at h
  · rename_i hdrop
    intro hmem
    simpa using List.dropWhile_eq_nil_iff.mp hdrop mark hmem
  · cases h

theorem cutAt_eq_none (h : mark ∉ cs) : cutAt mark cs = none := by
  rw [cutAt, List.dropWhile_eq_nil_iff.mpr (bne_of_not_mem h)]

/-! ### Lines -/

theorem lines_of_cutAt (h : cutAt '\n' cs = some (line, rest)) :
    lines cs = dropCarriageReturn line :: lines rest := by
  rw [lines]
  split
  · rename_i found after hcut
    obtain ⟨rfl, rfl⟩ := Prod.mk.inj (Option.some.inj (h.symm.trans hcut))
    rfl
  · rename_i hnone
    rw [h] at hnone
    cases hnone

/-- Text that no line feed closes is the last line, or nothing. -/
theorem lines_of_cutAt_eq_none (h : cutAt '\n' cs = none) :
    lines cs = if cs.isEmpty then [] else [cs] := by
  rw [lines]
  split
  · rename_i hcut
    rw [h] at hcut
    cases hcut
  · rfl

/-- A line that is closed by a line feed comes first, without a carriage return at its end. -/
theorem lines_append (h : '\n' ∉ line) :
    lines (line ++ '\n' :: rest) = dropCarriageReturn line :: lines rest :=
  lines_of_cutAt (cutAt_append h)

theorem dropCarriageReturn_eq_self (h : line.getLast? ≠ some '\r') :
    dropCarriageReturn line = line := if_neg h

theorem not_mem_dropCarriageReturn (h : mark ∉ line) : mark ∉ dropCarriageReturn line := by
  unfold dropCarriageReturn
  split
  · exact fun hmem => h (List.dropLast_subset line hmem)
  · exact h

/-- **No line holds a line feed.** -/
theorem not_mem_of_mem_lines (h : line ∈ lines cs) : '\n' ∉ line := by
  induction cs using lines.induct with
  | case1 cs first rest hcut ih =>
    rw [lines_of_cutAt hcut] at h
    rcases List.mem_cons.mp h with rfl | h
    · exact not_mem_dropCarriageReturn (not_mem_of_cutAt hcut)
    · exact ih h
  | case2 cs hcut hempty =>
    rw [lines_of_cutAt_eq_none hcut, if_pos hempty] at h
    cases h
  | case3 cs hcut hempty =>
    rw [lines_of_cutAt_eq_none hcut, if_neg hempty, List.mem_singleton] at h
    rw [h]
    exact not_mem_of_cutAt_eq_none hcut

/-! ### What lines are -/

/-- **The lines of a text.**  A line is closed by a line feed, or by a carriage return and a line
feed, and neither belongs to it.  What no line feed closes is a line if it holds anything. -/
inductive Lined : List Char → List (List Char) → Prop
  | nil : Lined [] []
  | unclosed {line : List Char} : line ≠ [] → '\n' ∉ line → Lined line [line]
  | feed {line rest : List Char} {ls : List (List Char)} : '\n' ∉ line →
      line.getLast? ≠ some '\r' → Lined rest ls → Lined (line ++ '\n' :: rest) (line :: ls)
  | returnFeed {line rest : List Char} {ls : List (List Char)} : '\n' ∉ line →
      Lined rest ls → Lined (line ++ '\r' :: '\n' :: rest) (line :: ls)

theorem dropCarriageReturn_concat (line : List Char) :
    dropCarriageReturn (line ++ ['\r']) = line := by
  rw [dropCarriageReturn, List.getLast?_concat, if_pos rfl, List.dropLast_concat]

theorem lined_lines (cs : List Char) : Lined cs (lines cs) := by
  induction cs using lines.induct with
  | case1 cs line rest hcut ih =>
    have hfeed := not_mem_of_cutAt hcut
    rw [lines_of_cutAt hcut, eq_of_cutAt hcut]
    by_cases hreturn : line.getLast? = some '\r'
    · obtain ⟨front, rfl⟩ := List.getLast?_eq_some_iff.mp hreturn
      rw [dropCarriageReturn_concat, List.append_assoc]
      exact .returnFeed (fun h => hfeed (List.mem_append_left _ h)) ih
    · rw [dropCarriageReturn_eq_self hreturn]
      exact .feed hfeed hreturn ih
  | case2 cs hcut hempty =>
    rw [lines_of_cutAt_eq_none hcut, if_pos hempty, List.isEmpty_iff.mp hempty]
    exact .nil
  | case3 cs hcut hempty =>
    rw [lines_of_cutAt_eq_none hcut, if_neg hempty]
    exact .unclosed (fun h => hempty (List.isEmpty_iff.mpr h)) (not_mem_of_cutAt_eq_none hcut)

/-- **A text has these lines and no others.** -/
theorem lined_iff : Lined cs ls ↔ ls = lines cs := by
  refine ⟨fun h => ?_, fun h => h ▸ lined_lines cs⟩
  induction h with
  | nil =>
    have hlines : lines [] = [] := lines_of_cutAt_eq_none rfl
    exact hlines.symm
  | @unclosed line hne hfeed =>
    rw [lines_of_cutAt_eq_none (cutAt_eq_none hfeed), if_neg (mt List.isEmpty_iff.mp hne)]
  | feed hfeed hreturn _ ih => rw [lines_append hfeed, dropCarriageReturn_eq_self hreturn, ih]
  | @returnFeed line rest ls hfeed _ ih =>
    have hline : '\n' ∉ line ++ ['\r'] := by simpa using hfeed
    have hlines : lines ((line ++ ['\r']) ++ '\n' :: rest) = line :: lines rest := by
      rw [lines_append hline, dropCarriageReturn_concat]
    rw [List.append_assoc] at hlines
    exact ih ▸ hlines.symm

/-! ### Lines put together -/

theorem toList_unlines (ls : List String) :
    (unlines ls).toList = ls.flatMap fun line => line.toList ++ ['\n'] := by
  rw [unlines, String.toList_join, List.flatMap_map]
  simp

/-- **Lines that were put together come back,** if none holds a line feed or ends in a carriage
return. -/
theorem lines_toList_unlines {ls : List String} (h : ∀ line ∈ ls,
    '\n' ∉ line.toList ∧ line.toList.getLast? ≠ some '\r') :
    lines (unlines ls).toList = ls.map String.toList := by
  rw [toList_unlines]
  induction ls with
  | nil => exact lines_of_cutAt_eq_none rfl
  | cons line rest ih =>
    obtain ⟨⟨hfeed, hreturn⟩, hrest⟩ := List.forall_mem_cons.mp h
    rw [List.flatMap_cons, List.append_assoc, List.singleton_append, lines_append hfeed,
      dropCarriageReturn_eq_self hreturn, ih hrest, List.map_cons]

end Gridcalc.Text
