import Gridcalc.Libraries.Log.Pattern.Node

/-! # How deep patterns are nested

Groups, repetitions, rows, choices and classes may stand in one another only so deep. A
pattern that goes further is shown the first part, from the left, that is one too many. -/

namespace Gridcalc.Log.Pattern

mutual

/-- The first part that is nested too deep, given the room there still is around it. -/
def ClassPart.tooDeep? (room : Nat) : ClassPart → Option Span
  | nothing _ | single _ | range _ _ _ | named _ _ => none
  | union parts span =>
    match room with
    | 0 => some span
    | room + 1 => ClassPart.tooDeepAmong? room parts
  | bracketed _ content span =>
    match room with
    | 0 => some span
    | room + 1 => content.tooDeep? room
  | combination _ left right span =>
    match room with
    | 0 => some span
    | room + 1 =>
      match left.tooDeep? room with
      | some span => some span
      | none => right.tooDeep? room

/-- The first of several parts that is nested too deep, or that has such a part. -/
def ClassPart.tooDeepAmong? (room : Nat) : List ClassPart → Option Span
  | [] => none
  | part :: parts =>
    match part.tooDeep? room with
    | some span => some span
    | none => ClassPart.tooDeepAmong? room parts

end

mutual

/-- The first part that is nested too deep, given the room there still is around it. -/
def Node.tooDeep? (room : Nat) : Node → Option Span
  | nothing _ | flags _ _ | atom _ _ => none
  | charClass part => part.tooDeep? room
  | repetition node _ span =>
    match room with
    | 0 => some span
    | room + 1 => node.tooDeep? room
  | group _ _ node span =>
    match room with
    | 0 => some span
    | room + 1 => node.tooDeep? room
  | sequence parts span =>
    match room with
    | 0 => some span
    | room + 1 => Node.tooDeepAmong? room parts
  | choice branches span =>
    match room with
    | 0 => some span
    | room + 1 => Node.tooDeepAmong? room branches

/-- The first of several parts that is nested too deep, or that has such a part. -/
def Node.tooDeepAmong? (room : Nat) : List Node → Option Span
  | [] => none
  | part :: parts =>
    match part.tooDeep? room with
    | some span => some span
    | none => Node.tooDeepAmong? room parts

end

end Gridcalc.Log.Pattern
