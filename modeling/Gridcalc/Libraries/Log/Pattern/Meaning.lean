import Gridcalc.Libraries.Log.Pattern.Property
import Gridcalc.Libraries.Log.Pattern.Shape
import Gridcalc.Libraries.Text.CaseFolding

/-! # What patterns mean

The meaning of a part depends on the flags that hold where it stands. Without the flag `u` a
part matches bytes instead of characters, and as texts are made of characters, it must not
match bytes that are none. -/

namespace Gridcalc.Log.Pattern

/-- The flags on which meaning depends. -/
structure Flags where
  ignoresCase : Bool := false
  /-- Whether lines have a start and an end, and not only the text. -/
  multiLine : Bool := false
  /-- Whether the dot matches the ends of lines. -/
  dotMatchesAll : Bool := false
  /-- Whether a carriage return ends a line. -/
  carriageReturns : Bool := false
  /-- Whether a repetition is reluctant unless it is marked. -/
  swapsReluctance : Bool := false
  unicode : Bool := true

/-- Flags after changes. -/
def Flags.change (flags : Flags) (changes : FlagChanges) : Flags :=
  changes.foldl (fun flags (flag, isSet) =>
    match flag with
    | 'i' => { flags with ignoresCase := isSet }
    | 'm' => { flags with multiLine := isSet }
    | 's' => { flags with dotMatchesAll := isSet }
    | 'R' => { flags with carriageReturns := isSet }
    | 'U' => { flags with swapsReluctance := isSet }
    | 'u' => { flags with unicode := isSet }
    | _ => flags) flags

/-! ### Sets of characters -/

/-- The ASCII characters of a named class. -/
def asciiClass : String → List (Nat × Nat)
  | "alnum" => [(0x30, 0x39), (0x41, 0x5A), (0x61, 0x7A)]
  | "alpha" => [(0x41, 0x5A), (0x61, 0x7A)]
  | "ascii" => [(0x00, 0x7F)]
  | "blank" => [(0x09, 0x09), (0x20, 0x20)]
  | "cntrl" => [(0x00, 0x1F), (0x7F, 0x7F)]
  | "digit" => [(0x30, 0x39)]
  | "graph" => [(0x21, 0x7E)]
  | "lower" => [(0x61, 0x7A)]
  | "print" => [(0x20, 0x7E)]
  | "punct" => [(0x21, 0x2F), (0x3A, 0x40), (0x5B, 0x60), (0x7B, 0x7E)]
  | "space" => [(0x09, 0x0D), (0x20, 0x20)]
  | "upper" => [(0x41, 0x5A)]
  | "word" => [(0x30, 0x39), (0x41, 0x5A), (0x5F, 0x5F), (0x61, 0x7A)]
  | "xdigit" => [(0x30, 0x39), (0x41, 0x46), (0x61, 0x66)]
  | _ => []

/-- Sorted ranges of characters in any case. Where bytes are matched, they stay ASCII. -/
def foldSet (flags : Flags) (ranges : List (Nat × Nat)) : List (Nat × Nat) :=
  if !flags.ignoresCase then Text.unionRanges ranges
  else if flags.unicode then Text.foldRanges ranges
  else Text.commonRanges (Text.foldRanges ranges) [(0, 0x7F)]

/-- The complement of ranges, if it is asked for. Where bytes are matched, it would hold bytes
that are no characters. -/
def negateSet (flags : Flags) (negated : Bool) (span : Span) (ranges : List (Nat × Nat)) :
    Except Error (List (Nat × Nat)) :=
  if !negated then .ok ranges
  else if flags.unicode then .ok (Text.complementRanges ranges)
  else .error ⟨span, .bytesUnreadable⟩

/-- The characters that a small letter behind a backslash stands for. -/
def letterSet (flags : Flags) (letter : Char) : List (Nat × Nat) :=
  match letter with
  | 'd' => if flags.unicode then digitSet else asciiClass "digit"
  | 's' => if flags.unicode then blankSet else asciiClass "space"
  | _ => if flags.unicode then wordSet else asciiClass "word"

/-- The characters of a named set. -/
def NamedSet.meaning (flags : Flags) (span : Span) :
    NamedSet → Except Error (List (Nat × Nat))
  | letter name => negateSet flags name.isUpper span (letterSet flags name.toLower)
  | colons name negated => negateSet flags negated span (foldSet flags (asciiClass name))
  | property query negated =>
    if !flags.unicode then .error ⟨span, .bytesExceeded⟩
    else
      match propertySet query with
      | .ok ranges => negateSet flags negated span (foldSet flags ranges)
      | .error fault => .error ⟨span, fault⟩

/-- The code of a character in a class. -/
def Member.code (flags : Flags) (member : Member) : Except Error Nat :=
  let code := member.char.toNat
  if flags.unicode || code < 128 then .ok code
  else .error ⟨member.span, if member.isByte then .bytesUnreadable else .bytesExceeded⟩

/-- A set against another one. -/
def SetOperator.apply :
    SetOperator → List (Nat × Nat) → List (Nat × Nat) → List (Nat × Nat)
  | intersection, a, b => Text.commonRanges a b
  | difference, a, b => Text.differenceRanges a b
  | symmetricDifference, a, b =>
    Text.differenceRanges (a ++ b) (Text.commonRanges a b)

mutual

/-- The characters of a part of a class, as sorted ranges. -/
def ClassPart.meaning (flags : Flags) : ClassPart → Except Error (List (Nat × Nat))
  | nothing _ => .ok []
  | single member => do
    let code ← member.code flags
    return [(code, code)]
  | range low high _ => do
    let low ← low.code flags
    let high ← high.code flags
    return [(low, high)]
  | named set span => set.meaning flags span
  | union parts _ => do return Text.unionRanges (← ClassPart.meaningAmong flags parts)
  | bracketed negated content span => do
    negateSet flags negated span (foldSet flags (← content.meaning flags))
  | combination operator left right _ => do
    let left ← left.meaning flags
    let right ← right.meaning flags
    return operator.apply (foldSet flags left) (foldSet flags right)

/-- The characters of several parts of a class, in the order of the parts. -/
def ClassPart.meaningAmong (flags : Flags) : List ClassPart → Except Error (List (Nat × Nat))
  | [] => .ok []
  | part :: parts => do
    let ranges ← part.meaning flags
    return ranges ++ (← ClassPart.meaningAmong flags parts)

end

/-! ### Parts -/

/-- One of the characters in sorted ranges. -/
def Flags.oneOf (flags : Flags) (ranges : List (Nat × Nat)) : Shape :=
  .ofRanges ranges (!flags.unicode)

/-- The shape of a character, which stands for all that differ from it in case alone if case
does not count. Where bytes are matched, only ASCII characters have a case. -/
def characterShape (flags : Flags) (c : Char) : Shape :=
  if flags.unicode || c.toNat < 128 then flags.oneOf (foldSet flags [(c.toNat, c.toNat)])
  else .text [c]

/-- The characters that the dot matches. -/
def dotSet (flags : Flags) : List (Nat × Nat) :=
  if flags.dotMatchesAll then Text.complementRanges []
  else if flags.carriageReturns then Text.complementRanges [(10, 10), (13, 13)]
  else Text.complementRanges [(10, 10)]

/-- The condition that an assertion makes. -/
def Assertion.meaning (flags : Flags) : Assertion → Condition
  | textStart => .textStart
  | textEnd => .textEnd
  | lineStart => if flags.multiLine then .lineStart flags.carriageReturns else .textStart
  | lineEnd => if flags.multiLine then .lineEnd flags.carriageReturns else .textEnd
  | word place => .word place flags.unicode

/-- The shape of what matches on its own. -/
def Atom.meaning (flags : Flags) (span : Span) : Atom → Except Error Shape
  | character c isByte =>
    if isByte && !flags.unicode && 128 ≤ c.toNat then .error ⟨span, .bytesUnreadable⟩
    else .ok (characterShape flags c)
  | any =>
    if flags.unicode then .ok (flags.oneOf (dotSet flags)) else .error ⟨span, .bytesUnreadable⟩
  | named set => do return flags.oneOf (← set.meaning flags span)
  | assertion condition => .ok (.condition (condition.meaning flags))

mutual

/-- **What a part of a pattern means**: its shape, and the flags that hold behind it. -/
def Node.meaning (flags : Flags) : Node → Except Error (Shape × Flags)
  | nothing _ => .ok (.nothing, flags)
  | Node.flags changes _ => .ok (.nothing, flags.change changes)
  | atom content span => do return (← content.meaning flags span, flags)
  | charClass part => do return (flags.oneOf (← part.meaning flags), flags)
  | repetition node repeats _ => do
    let (shape, flags) ← node.meaning flags
    let isReluctant := repeats.isReluctant != flags.swapsReluctance
    return (.repeated { repeats with isReluctant } shape, flags)
  | group captures changes node _ => do
    let (shape, _) ← node.meaning (flags.change changes)
    return (if captures then .capture shape else shape, flags)
  | sequence parts _ => do
    let (shapes, flags) ← Node.meaningAmong flags parts
    return (.ofParts shapes, flags)
  | choice branches _ => do
    let (shapes, flags) ← Node.meaningAmong flags branches
    return (.ofBranches shapes, flags)

/-- What several parts mean, from left to right. -/
def Node.meaningAmong (flags : Flags) : List Node → Except Error (List Shape × Flags)
  | [] => .ok ([], flags)
  | part :: parts => do
    let (shape, flags) ← part.meaning flags
    let (shapes, flags) ← Node.meaningAmong flags parts
    return (shape :: shapes, flags)

end

end Gridcalc.Log.Pattern
