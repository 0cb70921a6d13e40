import Gridcalc.Libraries.Log.Pattern.Error

/-! # Patterns as trees

What a pattern is made of. Each part knows the span that it takes up in the pattern, so
that an error in it can be shown. -/

namespace Gridcalc.Log.Pattern

/-- A set of characters that has a name. -/
inductive NamedSet where
  /-- A letter behind a backslash. A capital stands for the complement. -/
  | letter (name : Char)
  /-- A name between colons, which only a class can hold. -/
  | colons (name : String) (negated : Bool)
  /-- The characters with a property. -/
  | property (query : List Char) (negated : Bool)
deriving DecidableEq

/-- A place between two characters, by the words around it. -/
inductive WordPlace where
  /-- A word begins or ends here. -/
  | boundary
  | noBoundary
  | start
  | stop
  /-- No word goes on up to here. -/
  | startHalf
  /-- No word goes on from here. -/
  | stopHalf
deriving DecidableEq

/-- A condition on a place. -/
inductive Assertion where
  | lineStart
  | lineEnd
  | textStart
  | textEnd
  | word (place : WordPlace)
deriving DecidableEq

/-- What matches on its own. -/
inductive Atom where
  /-- A character, which may be written as a byte. -/
  | character (c : Char) (isByte : Bool)
  /-- The dot. -/
  | any
  | named (set : NamedSet)
  | assertion (condition : Assertion)
deriving DecidableEq

/-- A character in a class. -/
structure Member where
  char : Char
  isByte : Bool := false
  span : Span

/-- How two sets of characters are set against each other. -/
inductive SetOperator where
  | intersection
  | difference
  | symmetricDifference

/-- A part of a class of characters. -/
inductive ClassPart where
  | nothing (span : Span)
  | single (member : Member)
  | range (low high : Member) (span : Span)
  | named (set : NamedSet) (span : Span)
  /-- Two or more parts in a row. -/
  | union (parts : List ClassPart) (span : Span)
  | bracketed (negated : Bool) (content : ClassPart) (span : Span)
  | combination (operator : SetOperator) (left right : ClassPart) (span : Span)

/-- Where a part of a class stands. -/
def ClassPart.span : ClassPart → Span
  | single member => member.span
  | nothing span | range _ _ span | named _ span | union _ span | bracketed _ _ span
  | combination _ _ _ span => span

/-- The flags that are set, and those that are taken back. -/
abbrev FlagChanges := List (Char × Bool)

/-- How often a part is repeated. -/
structure Repeats where
  least : Nat
  most : Option Nat
  /-- Whether as few times as will do are tried first, and not as many as can be. -/
  isReluctant : Bool := false
deriving DecidableEq

/-- A part of a pattern. -/
inductive Node where
  | nothing (span : Span)
  /-- Flags on their own, which hold from here on. -/
  | flags (changes : FlagChanges) (span : Span)
  | atom (content : Atom) (span : Span)
  /-- A class of characters between brackets. -/
  | charClass (part : ClassPart)
  | repetition (node : Node) (repeats : Repeats) (span : Span)
  | group (captures : Bool) (changes : FlagChanges) (node : Node) (span : Span)
  /-- Two or more parts in a row. -/
  | sequence (parts : List Node) (span : Span)
  /-- Two or more branches. -/
  | choice (branches : List Node) (span : Span)

/-- Where a part of a pattern stands. -/
def Node.span : Node → Span
  | charClass part => part.span
  | nothing span | flags _ span | atom _ span | repetition _ _ span | group _ _ _ span
  | sequence _ span | choice _ span => span

end Gridcalc.Log.Pattern
