import Gridcalc.Libraries.Log.Pattern.Cursor
import Gridcalc.Libraries.Log.Pattern.Node
import Gridcalc.Libraries.Text.Digits

/-! # Escapes in patterns

A backslash and what follows it stand for a character, for a set of characters or for an
assertion about a place. -/

namespace Gridcalc.Log.Pattern

/-- Whether an escape of this character stands for the character itself. -/
def isEscapable (c : Char) : Bool :=
  c.toNat < 128 && !c.isAlphanum && c != '<' && c != '>'

/-- The characters of the names that a word boundary can have. -/
def isBoundaryChar (c : Char) : Bool := c.isAlpha || c == '-'

/-- The names that a word boundary can have. -/
def boundaryNames : List (String × WordPlace) :=
  [("start", .start), ("end", .stop), ("start-half", .startHalf), ("end-half", .stopHalf)]

/-- Whether a character is a hexadecimal digit. -/
def isHexDigit (c : Char) : Bool := (Text.digitValue? c).isSome

/-- So many hexadecimal digits. -/
def hexDigits : Nat → Cursor → Except Error (List Char × Cursor)
  | 0, cursor => .ok ([], cursor)
  | count + 1, cursor =>
    match cursor.rest with
    | [] => .error ⟨cursor.here, .escapeCutShort⟩
    | c :: _ => do
      if !isHexDigit c then .error ⟨cursor.charSpan, .hexNotDigit⟩
      let (digits, behind) ← hexDigits count cursor.step
      return (c :: digits, behind)

/-- A character given by its code between braces, from the opening brace on. -/
def bracedCode (cursor : Cursor) : Except Error (Atom × Cursor) :=
  let (digits, behind) := cursor.step.collectWhile isHexDigit
  match behind.rest with
  | [] => .error ⟨behind.since cursor.position, .escapeCutShort⟩
  | c :: _ =>
    if c ≠ '\x7d' then .error ⟨behind.charSpan, .hexNotDigit⟩
    else if digits.isEmpty then .error ⟨behind.step.since cursor.position, .hexEmpty⟩
    else
      match Text.charOfCode? digits with
      | some value => .ok (.character value false, behind.step)
      | none => .error ⟨behind.since cursor.next.position, .hexNoCharacter⟩

/-- A character given by its code: so many digits, or any number of them between braces.
Two digits are a byte. The cursor stands at the letter that announces the code. -/
def code (count : Nat) (cursor : Cursor) : Except Error (Atom × Cursor) :=
  let cursor := cursor.step
  match cursor.peek? with
  | none => .error ⟨cursor.here, .escapeCutShort⟩
  | some c => do
    if c = '\x7b' then bracedCode cursor
    else
      let (digits, behind) ← hexDigits count cursor
      match Text.charOfCode? digits with
      | some value => .ok (.character value (count == 2), behind)
      | none => .error ⟨behind.since cursor.position, .hexNoCharacter⟩

/-- The characters with a property: one letter, or a name between braces. The cursor stands
at the letter that announces it, a capital for the characters without it. -/
def property (cursor : Cursor) : Except Error (Atom × Cursor) :=
  let negated := cursor.peek? = some 'P'
  let cursor := cursor.step
  match cursor.peek? with
  | none => .error ⟨cursor.here, .escapeCutShort⟩
  | some c =>
    if c = '\x7b' then
      let (query, behind) := cursor.step.collectWhile (· != '\x7d')
      if behind.rest.isEmpty then .error ⟨behind.here, .escapeCutShort⟩
      else .ok (.named (.property query negated), behind.next)
    else if c = '\\' then .error ⟨cursor.charSpan, .propertyUnreadable⟩
    else .ok (.named (.property [c] negated), cursor.step)

/-- A word boundary, which may have a name between braces. Braces that hold no name are left
to a repetition. The escape began at the start, and the cursor stands behind its letter. -/
def boundary (start : Position) (cursor : Cursor) : Except Error (Atom × Cursor) :=
  let plain : Atom := .assertion (.word .boundary)
  if cursor.peek? ≠ some '\x7b' then .ok (plain, cursor)
  else
    let inner := cursor.step
    match inner.peek? with
    | none => .error ⟨inner.since start, .boundaryCutShort⟩
    | some c =>
      if !isBoundaryChar c then .ok (plain, cursor)
      else
        let (name, behind) := inner.collectWhile isBoundaryChar
        if behind.peek? ≠ some '\x7d' then
          .error ⟨behind.since cursor.position, .boundaryUnclosed⟩
        else
          match boundaryNames.lookup (String.ofList name) with
          | some place => .ok (.assertion (.word place), behind.next)
          | none => .error ⟨behind.since inner.position, .boundaryUnknown⟩

/-- An escape whose meaning is in its letter alone. -/
def letterEscape? : Char → Option Atom
  | 'a' => some (.character '\x07' false)
  | 'f' => some (.character '\x0c' false)
  | 't' => some (.character '\t' false)
  | 'n' => some (.character '\n' false)
  | 'r' => some (.character '\r' false)
  | 'v' => some (.character '\x0b' false)
  | 'A' => some (.assertion .textStart)
  | 'z' => some (.assertion .textEnd)
  | 'B' => some (.assertion (.word .noBoundary))
  | '<' => some (.assertion (.word .start))
  | '>' => some (.assertion (.word .stop))
  | c =>
    if ['d', 's', 'w', 'D', 'S', 'W'].contains c then some (.named (.letter c))
    else if isEscapable c then some (.character c false)
    else none

/-- What an escape stands for. The cursor stands at the backslash. -/
def escape (cursor : Cursor) : Except Error (Atom × Cursor) :=
  let start := cursor.position
  let cursor := cursor.next
  match cursor.peek? with
  | none => .error ⟨cursor.since start, .escapeCutShort⟩
  | some 'x' => code 2 cursor
  | some 'u' => code 4 cursor
  | some 'U' => code 8 cursor
  | some 'p' | some 'P' => property cursor
  | some 'b' => boundary start cursor.next
  | some c =>
    if c.isDigit then .error ⟨cursor.next.since start, .backreference⟩
    else
      match letterEscape? c with
      | some atom => .ok (atom, cursor.next)
      | none => .error ⟨cursor.next.since start, .escapeUnknown⟩

end Gridcalc.Log.Pattern
