import Gridcalc.Libraries.Log.Pattern.Escape

/-! # Classes of characters in patterns

A class stands between brackets and holds characters, ranges, escapes, named classes and
further classes, which two operators in a row may set against each other. The operators
bind less than a row of parts, and the first one goes first. -/

namespace Gridcalc.Log.Pattern

/-- The named classes. -/
def namedClasses : List String :=
  ["alnum", "alpha", "ascii", "blank", "cntrl", "digit", "graph", "lower", "print", "punct",
   "space", "upper", "word", "xdigit"]

/-- A named class, if one stands here. -/
def namedClass? (cursor : Cursor) : Option (NamedSet × Cursor) := do
  let opened ← cursor.accept? "[:"
  let caret := opened.accept? "^"
  let opened := caret.getD opened
  let name := String.ofList (opened.rest.takeWhile (· != ':'))
  let behind := opened.advance name.length
  if namedClasses.contains name then
    return (.colons name caret.isSome, ← behind.accept? ":]")
  else none

/-- A character or an escape in a class. -/
def classItem (cursor : Cursor) : Except Error (Atom × Cursor) :=
  match cursor.peek? with
  | some '\\' => escape cursor
  | some c => .ok (.character c false, cursor.next)
  | none => .ok (.any, cursor)

/-- The character that an end of a range is. -/
def rangeEnd (atom : Atom) (span : Span) : Except Error Member :=
  match atom with
  | .character char isByte => .ok { char, isByte, span }
  | _ => .error ⟨span, .rangeBound⟩

/-- The part of a class that an item is. -/
def Atom.inClass (atom : Atom) (span : Span) : Except Error ClassPart :=
  match atom with
  | .character char isByte => .ok (.single { char, isByte, span })
  | .named set => .ok (.named set span)
  | .any => .ok (.nothing span)
  | .assertion _ => .error ⟨span, .assertionInClass⟩

/-- One item of a class, or a range. The class opens at the given span. -/
def classRange (around : Span) (cursor : Cursor) : Except Error (ClassPart × Cursor) := do
  let (first, behind) ← classItem cursor
  let firstSpan := behind.since cursor.position
  let dash := behind.skip
  let isDash := dash.peek? = some '-'
  let follower := dash.step.peek?
  if dash.rest.isEmpty then .error ⟨around, .classUnclosed⟩
  else if !isDash || follower = some ']' || follower = some '-' then
    return (← first.inClass firstSpan, dash)
  else if follower.isNone then .error ⟨around, .classUnclosed⟩
  else
    let (last, behind) ← classItem dash.step
    let low ← rangeEnd first firstSpan
    let high ← rangeEnd last (behind.since dash.step.position)
    let span := behind.since cursor.position
    if high.char < low.char then .error ⟨span, .rangeReversed⟩
    else return (.range low high span, behind)

/-- A class that is still open. -/
structure OpenClass where
  /-- The opening of the class. -/
  span : Span
  negated : Bool
  /-- What stands before the last operator, and that operator. -/
  left : Option (ClassPart × SetOperator) := none
  /-- The parts behind it, the last one first. -/
  parts : List ClassPart := []
  /-- Where those parts begin. -/
  start : Position

namespace OpenClass

/-- A class with one part more. -/
def push (opened : OpenClass) (part : ClassPart) : OpenClass :=
  { opened with parts := part :: opened.parts }

/-- The parts behind the last operator as one. -/
def operand (opened : OpenClass) : ClassPart :=
  match opened.parts, opened.parts.getLast? with
  | [part], _ => part
  | last :: _, some first => .union opened.parts.reverse ⟨first.span.start, last.span.stop⟩
  | _, _ => .nothing ⟨opened.start, opened.start⟩

/-- All that has been read of a class as one part. -/
def content (opened : OpenClass) : ClassPart :=
  let operand := opened.operand
  match opened.left with
  | some (left, operator) =>
    .combination operator left operand ⟨left.span.start, operand.span.stop⟩
  | none => operand

/-- A class behind an operator, which ends at the cursor. -/
def operate (opened : OpenClass) (operator : SetOperator) (cursor : Cursor) : OpenClass :=
  { opened with left := some (opened.content, operator), parts := [], start := cursor.position }

/-- A class that closes before the cursor. -/
def close (opened : OpenClass) (cursor : Cursor) : ClassPart :=
  .bracketed opened.negated opened.content (cursor.since opened.span.start)

end OpenClass

/-- Past the opening of a class: the bracket, a caret, and the dashes, at most so many, or the
bracket that count as characters there. -/
def openClass (room : Nat) (cursor : Cursor) : Except Error (OpenClass × Cursor) :=
  let start := cursor.position
  let inner := cursor.step
  let negated := inner.peek? = some '^'
  let inner := if negated then inner.step else inner
  let members := dashes room inner
  let (parts, behind) :=
    if members.1.isEmpty && inner.peek? = some ']' then
      ([.single { char := ']', span := inner.charSpan }], inner.step)
    else members
  if !behind.rest.isEmpty then
    .ok ({ span := behind.since start, negated, parts, start := inner.position }, behind)
  else if members.1.isEmpty then .error ⟨behind.since start, .classUnclosed⟩
  else .error ⟨⟨start, start⟩, .classUnclosed⟩
where
  /-- The dashes in front, the last one first, at most so many. -/
  dashes : Nat → Cursor → List ClassPart × Cursor
    | 0, cursor => ([], cursor)
    | room + 1, cursor =>
      if cursor.peek? = some '-' then
        let (members, behind) := dashes room cursor.step
        (members ++ [.single { char := '-', span := cursor.charSpan }], behind)
      else ([], cursor)

/-- The operator that a character written twice is. -/
def setOperator? : Char → Option SetOperator
  | '&' => some .intersection
  | '-' => some .difference
  | '~' => some .symmetricDifference
  | _ => none

/-- The rest of a class and of those around it, which are still open, the innermost first,
over at most so many parts. -/
def closeClass (opened : OpenClass) (around : List OpenClass) :
    Nat → Cursor → Except Error (ClassPart × Cursor)
  | 0, _ => .error ⟨opened.span, .classUnclosed⟩
  | room + 1, cursor =>
    let cursor := cursor.skip
    match cursor.rest with
    | [] => .error ⟨opened.span, .classUnclosed⟩
    | c :: rest =>
      if c = '[' then
        match namedClass? cursor with
        | some (set, behind) =>
          let part := .named set (behind.since cursor.position)
          closeClass (opened.push part) around room behind
        | none => do
          let (inner, behind) ← openClass room cursor
          closeClass inner (opened :: around) room behind
      else if c = ']' then
        let part := opened.close cursor.next
        match around with
        | [] => .ok (part, cursor.next)
        | outer :: around => closeClass (outer.push part) around room cursor.next
      else
        match if rest.head? = some c then setOperator? c else none with
        | some operator =>
          let behind := cursor.advance 2
          closeClass (opened.operate operator behind) around room behind
        | none => do
          let (part, behind) ← classRange opened.span cursor
          closeClass (opened.push part) around room behind

/-- A class of at most so many parts. The cursor stands at its bracket. -/
def characterClass (room : Nat) (cursor : Cursor) : Except Error (ClassPart × Cursor) := do
  let (opened, behind) ← openClass room cursor
  closeClass opened [] room behind

end Gridcalc.Log.Pattern
