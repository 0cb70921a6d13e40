import Gridcalc.Libraries.Log.Pattern.Cursor
import Gridcalc.Libraries.Log.Pattern.Node
import Gridcalc.Libraries.Text.Alphabetic

/-! # Openings of groups in patterns

An opening parenthesis begins a group, which may have a name or flags. Flags without a
group hold up to the end of the group around them. -/

namespace Gridcalc.Log.Pattern

/-- The names given to groups so far, and where. -/
abbrev Names := List (List Char × Span)

/-- What an opening parenthesis begins. -/
inductive Opening where
  /-- Flags alone. -/
  | flags (changes : FlagChanges)
  /-- A group, which may capture what it matches and have flags. -/
  | group (captures : Bool) (changes : FlagChanges)

/-- The flags there are. -/
def isFlag (c : Char) : Bool := ['i', 'm', 's', 'U', 'u', 'R', 'x'].contains c

/-- Whether a character can stand in the name of a group, at its front or further on. -/
def isNameChar (first : Bool) (c : Char) : Bool :=
  c == '_' ||
    if first then Text.isAlphabetic c
    else Text.isAlphanumeric c || c == '.' || c == '[' || c == ']'

/-- The characters of a name up to its closing mark, at most so many. -/
def nameChars (first : Bool) : Nat → Cursor → Except Error (List Char × Cursor)
  | 0, cursor => .error ⟨cursor.here, .nameUnclosed⟩
  | room + 1, cursor =>
    match cursor.rest with
    | [] => .error ⟨cursor.here, .nameUnclosed⟩
    | c :: _ => do
      if c = '>' then return ([], cursor)
      if !isNameChar first c then .error ⟨cursor.charSpan, .nameCharacter⟩
      let (name, behind) ← nameChars false room cursor.next
      return (c :: name, behind)

/-- The name of a group, of at most so many characters, which no other group has. -/
def groupName (names : Names) (room : Nat) (cursor : Cursor) :
    Except Error (Names × Cursor) := do
  let (name, behind) ← nameChars true room cursor
  let span := behind.since cursor.position
  if name.isEmpty then .error ⟨span, .nameEmpty⟩
  match names.find? (·.1 = name) with
  | some (_, first) => .error ⟨span, .nameRepeated first⟩
  | none => return ((name, span) :: names, behind.next)

/-- Flags up to the mark that ends them, at most so many, behind those that were read. -/
def flagsFrom (read : List (Char × Span)) :
    Nat → Cursor → Except Error (List (Char × Span) × Cursor)
  | 0, cursor => .error ⟨cursor.here, .flagsCutShort⟩
  | room + 1, cursor =>
    match cursor.rest with
    | [] => .error ⟨cursor.here, .flagsCutShort⟩
    | c :: _ =>
      if c = ':' || c = ')' then .ok (read, cursor)
      else if c ≠ '-' && !isFlag c then .error ⟨cursor.charSpan, .flagUnknown⟩
      else
        match read.find? (·.1 = c) with
        | some (_, first) =>
          let fault := if c = '-' then .negationRepeated first else .flagRepeated first
          .error ⟨cursor.charSpan, fault⟩
        | none => flagsFrom (read ++ [(c, cursor.charSpan)]) room cursor.next

/-- What flags do: those in front of a dash are set, and those behind it taken back. -/
def changesOf (flags : List Char) : FlagChanges :=
  (flags.takeWhile (· != '-')).map (·, true) ++
    ((flags.dropWhile (· != '-')).drop 1).map (·, false)

/-- Whether there is spacing under changed flags. -/
def spacingUnder (changes : FlagChanges) (spacing : Bool) : Bool :=
  (changes.lookup 'x').getD spacing

/-- Flags, at most so many, and what they belong to. The cursor stands behind the question mark,
which itself stands at the span; the parenthesis is at the other span. -/
def flagged (parenthesis mark : Span) (room : Nat) (cursor : Cursor) :
    Except Error (Opening × Cursor) := do
  if cursor.rest.isEmpty then .error ⟨parenthesis, .groupUnclosed⟩
  let (flags, behind) ← flagsFrom [] room cursor
  match flags.getLast? with
  | some ('-', span) => .error ⟨span, .negationDangling⟩
  | _ =>
    let changes := changesOf (flags.map (·.1))
    if behind.peek? = some ':' then return (.group false changes, behind.next)
    if flags.isEmpty then .error ⟨mark, .nothingToRepeat⟩
    return (.flags changes, behind.next)

/-- What an opening parenthesis begins, over at most so many characters, the names with one that
it may give, and the cursor behind the opening. The cursor stands at the parenthesis. -/
def opening (names : Names) (room : Nat) (cursor : Cursor) :
    Except Error (Opening × Names × Cursor) := do
  let inner := cursor.step
  match ["?=", "?!", "?<=", "?<!"].findSome? inner.accept? with
  | some behind => .error ⟨behind.since cursor.position, .lookaround⟩
  | none =>
    match ["?P<", "?<"].findSome? inner.accept? with
    | some named =>
      let (names, behind) ← groupName names room named
      return (.group true [], names, behind)
    | none =>
      match inner.accept? "?" with
      | some behind =>
        let (opening, behind) ← flagged cursor.charSpan inner.here room behind
        return (opening, names, behind)
      | none => return (.group true [], names, inner)

end Gridcalc.Log.Pattern
