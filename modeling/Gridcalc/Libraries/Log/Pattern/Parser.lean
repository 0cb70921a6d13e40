import Gridcalc.Libraries.Log.Pattern.Class
import Gridcalc.Libraries.Log.Pattern.Group

/-! # Reading patterns

A pattern is read from left to right, part by part. Groups that are still open wait in a
stack, each with what has been read of the branches around it. -/

namespace Gridcalc.Log.Pattern

/-- What has been read of a group, or of the whole pattern. -/
structure Stretch where
  /-- Where the first branch begins. -/
  start : Position
  /-- The branches that are complete, the last one first. -/
  branches : List Node := []
  /-- Where the present branch begins. -/
  branchStart : Position := start
  /-- The parts of the present branch, the last one first. -/
  parts : List Node := []

namespace Stretch

/-- A stretch with one part more. -/
def push (stretch : Stretch) (part : Node) : Stretch :=
  { stretch with parts := part :: stretch.parts }

/-- The present branch, which ends at the given place. -/
def branch (stretch : Stretch) (stop : Position) : Node :=
  let span := ⟨stretch.branchStart, stop⟩
  match stretch.parts with
  | [] => .nothing span
  | [part] => part
  | parts => .sequence parts.reverse span

/-- All that has been read, which ends at the given place. -/
def node (stretch : Stretch) (stop : Position) : Node :=
  match stretch.branches with
  | [] => stretch.branch stop
  | branches => .choice (stretch.branch stop :: branches).reverse ⟨stretch.start, stop⟩

/-- A stretch behind a bar, which stands in front of the cursor. -/
def divide (stretch : Stretch) (bar : Position) (cursor : Cursor) : Stretch :=
  { stretch with
    branches := stretch.branch bar :: stretch.branches
    branchStart := cursor.position
    parts := [] }

end Stretch

/-- A group that is still open. -/
structure OpenGroup where
  /-- Its parenthesis. -/
  span : Span
  captures : Bool
  changes : FlagChanges
  /-- Whether there is spacing again behind it. -/
  spacing : Bool
  /-- What has been read around it. -/
  outside : Stretch

/-- How far the reading of a pattern has come. -/
structure Progress where
  cursor : Cursor
  stretch : Stretch
  /-- The open groups, the innermost first. -/
  groups : List OpenGroup := []
  names : Names := []

/-- A number of repetitions, which blanks may surround. Nothing is read as no number. -/
def count (cursor : Cursor) : Except Error Nat × Cursor :=
  let start := (cursor.collectWhile Text.isBlank).2
  let (digits, behind) := start.collectWhile Char.isDigit
  let value : Except Error Nat :=
    if digits.isEmpty then .error ⟨behind.since start.position, .countNotNumber⟩
    else
      match Text.positional? 10 digits with
      | some value =>
        if value < 4294967296 then .ok value
        else .error ⟨behind.since start.position, .countTooLarge⟩
      | none => .error ⟨behind.since start.position, .countNotNumber⟩
  (value, (behind.collectWhile Text.isBlank).2)

/-- Repeats with the mark that makes them reluctant, if it stands here, and the cursor behind
it. -/
def Repeats.marked (repeats : Repeats) (cursor : Cursor) : Repeats × Cursor :=
  if cursor.peek? = some '?' then ({ repeats with isReluctant := true }, cursor.next)
  else (repeats, cursor)

/-- The repeats of a counted repetition. The cursor stands at its brace. -/
def counted (cursor : Cursor) : Except Error (Repeats × Cursor) := do
  let unclosed (behind : Cursor) : Error := ⟨behind.since cursor.position, .countUnclosed⟩
  let inner := cursor.step
  if inner.rest.isEmpty then .error (unclosed inner)
  let (least, behind) := count inner
  if behind.rest.isEmpty then .error (unclosed behind)
  let (repeats, behind) ←
    if behind.peek? = some ',' then
      let upper := behind.step
      if upper.rest.isEmpty then .error (unclosed upper)
      else if upper.peek? = some '\x7d' then
        pure (({ least := ← least, most := none } : Repeats), upper)
      else
        let least ← least
        let (most, behind) := count upper
        pure (({ least, most := some (← most) } : Repeats), behind)
    else
      let exactly ← least
      pure (({ least := exactly, most := some exactly } : Repeats), behind)
  if behind.peek? ≠ some '\x7d' then .error (unclosed behind)
  let (repeats, behind) := repeats.marked behind.step
  if repeats.most.any (· < repeats.least) then
    .error ⟨behind.since cursor.position, .countReversed⟩
  else .ok (repeats, behind)

/-- The repeats of a repetition. The cursor stands at its mark. -/
def repeats (mark : Char) (cursor : Cursor) : Except Error (Repeats × Cursor) :=
  match mark with
  | '?' => .ok (Repeats.marked { least := 0, most := some 1 } cursor.next)
  | '*' => .ok (Repeats.marked { least := 0, most := none } cursor.next)
  | '+' => .ok (Repeats.marked { least := 1, most := none } cursor.next)
  | _ => counted cursor

/-- The progress behind a repetition of the last part. Flags cannot be repeated. -/
def repeatLast (progress : Progress) (mark : Char) : Except Error Progress :=
  let cursor := progress.cursor
  match progress.stretch.parts with
  | [] | .flags _ _ :: _ => .error ⟨cursor.here, .nothingToRepeat⟩
  | part :: parts => do
    let (repeats, behind) ← repeats mark cursor
    let repeated := .repetition part repeats (behind.since part.span.start)
    return { progress with
      cursor := behind
      stretch := { progress.stretch with parts := repeated :: parts } }

/-- The progress behind an opening parenthesis, over at most so many characters. -/
def openGroup (room : Nat) (progress : Progress) : Except Error Progress := do
  let cursor := progress.cursor
  let (opening, names, behind) ← opening progress.names room cursor
  let enter (changes : FlagChanges) : Cursor :=
    { behind with spacing := spacingUnder changes cursor.spacing }
  match opening with
  | .flags changes =>
    return { progress with
      cursor := enter changes
      stretch := progress.stretch.push (.flags changes (behind.since cursor.position))
      names }
  | .group captures changes =>
    let group : OpenGroup :=
      { span := cursor.charSpan, captures, changes, spacing := cursor.spacing,
        outside := progress.stretch }
    return {
      cursor := enter changes
      stretch := { start := behind.position }
      groups := group :: progress.groups
      names }

/-- The progress behind a closing parenthesis. -/
def closeGroup (progress : Progress) : Except Error Progress :=
  match progress.groups with
  | [] => .error ⟨progress.cursor.charSpan, .groupUnopened⟩
  | group :: groups =>
    let behind := progress.cursor.next
    let inside := progress.stretch.node progress.cursor.position
    let span := behind.since group.span.start
    .ok { progress with
      cursor := { behind with spacing := group.spacing }
      stretch := group.outside.push (.group group.captures group.changes inside span)
      groups }

/-- The progress behind the part of a pattern that begins with a character, over at most so many
characters. -/
def advance (room : Nat) (progress : Progress) (c : Char) : Except Error Progress := do
  let cursor := progress.cursor
  let reached (part : Span → Node) (behind : Cursor) : Progress :=
    { progress with
      cursor := behind
      stretch := progress.stretch.push (part (behind.since cursor.position)) }
  if c = '(' then openGroup room progress
  else if c = ')' then closeGroup progress
  else if ['?', '*', '+', '\x7b'].contains c then repeatLast progress c
  else if c = '|' then
    return { progress with
      cursor := cursor.next
      stretch := progress.stretch.divide cursor.position cursor.next }
  else if c = '[' then
    let (part, behind) ← characterClass room cursor
    return reached (fun _ => .charClass part) behind
  else if c = '\\' then
    let (atom, behind) ← escape cursor
    return reached (.atom atom) behind
  else if c = '.' then return reached (.atom .any) cursor.next
  else if c = '^' then return reached (.atom (.assertion .lineStart)) cursor.next
  else if c = '$' then return reached (.atom (.assertion .lineEnd)) cursor.next
  else return reached (.atom (.character c false)) cursor.next

/-- Reads on to the end of a pattern, over at most so many parts. -/
def finish : Nat → Progress → Except Error Node
  | 0, progress => .ok (progress.stretch.node progress.cursor.position)
  | room + 1, progress =>
    let cursor := progress.cursor.skip
    match cursor.rest with
    | [] =>
      match progress.groups with
      | [] => .ok (progress.stretch.node cursor.position)
      | group :: _ => .error ⟨group.span, .groupUnclosed⟩
    | c :: _ => do finish room (← advance room { progress with cursor } c)

/-- **What a pattern is made of**, or else what is wrong with its grammar. -/
def Node.read (pattern : String) : Except Error Node :=
  finish (pattern.length + 1)
    { cursor := { rest := pattern.toList }, stretch := { start := {} } }

end Gridcalc.Log.Pattern
