import Gridcalc.Libraries.Log.Pattern.Error
import Gridcalc.Text.Blank

/-! # Walking through a pattern

A cursor stands between two characters of a pattern. A pattern can ask for *spacing*:
blanks in it, and comments from a `#` to the end of the line, are then skipped. -/

namespace Gridcalc.Log.Pattern

/-- What is left of a pattern, and where that begins. -/
structure Cursor where
  rest : List Char
  position : Position := {}
  /-- Whether blanks and comments are skipped. -/
  spacing : Bool := false

/-- How many characters of blanks and comments a text begins with. -/
def gapLength (inComment : Bool) : List Char → Nat
  | [] => 0
  | c :: rest =>
    if inComment then gapLength (c != '\n') rest + 1
    else if Text.isBlank c then gapLength false rest + 1
    else if c = '#' then gapLength true rest + 1
    else 0

namespace Cursor

/-- The character behind the cursor. -/
def peek? (cursor : Cursor) : Option Char := cursor.rest.head?

/-- Past so many characters. -/
def advance (cursor : Cursor) (count : Nat) : Cursor :=
  { cursor with
    rest := cursor.rest.drop count
    position := (cursor.rest.take count).foldl Position.after cursor.position }

/-- Past one character. -/
def next (cursor : Cursor) : Cursor := cursor.advance 1

/-- Past blanks and comments, where they are skipped. -/
def skip (cursor : Cursor) : Cursor :=
  if cursor.spacing then cursor.advance (gapLength false cursor.rest) else cursor

/-- Past one character and the blanks and comments behind it. -/
def step (cursor : Cursor) : Cursor := cursor.next.skip

/-- Past a word, if it stands here. -/
def accept? (cursor : Cursor) (word : String) : Option Cursor :=
  if word.toList.isPrefixOf cursor.rest then some (cursor.advance word.length) else none

/-- Past characters of a kind, at most so many. -/
def collect (kind : Char → Bool) : Nat → Cursor → List Char × Cursor
  | 0, cursor => ([], cursor)
  | room + 1, cursor =>
    match cursor.rest with
    | [] => ([], cursor)
    | c :: _ =>
      if kind c then
        let (found, behind) := collect kind room cursor.step
        (c :: found, behind)
      else ([], cursor)

/-- The characters of a kind behind the cursor, and the cursor past them. -/
def collectWhile (cursor : Cursor) (kind : Char → Bool) : List Char × Cursor :=
  collect kind cursor.rest.length cursor

/-- The part of a pattern from an earlier place to the cursor. -/
def since (cursor : Cursor) (start : Position) : Span := ⟨start, cursor.position⟩

/-- The empty part of a pattern at the cursor. -/
def here (cursor : Cursor) : Span := cursor.since cursor.position

/-- The character behind the cursor, as a part of the pattern. -/
def charSpan (cursor : Cursor) : Span := cursor.next.since cursor.position

end Cursor
end Gridcalc.Log.Pattern
