import Gridcalc.Libraries.Log.Pattern.Node
import Gridcalc.Libraries.Text.Ranges

/-! # Shapes of patterns

What is left of a pattern once its flags are known. A shape is *plain*: what matches the same
in a simpler way is written that way. Single characters between which there is a choice are a
set, characters in a row are a text, and what all branches of a choice begin with stands in
front of the choice. -/

namespace Gridcalc.Log.Pattern

/-- A condition on a place, for certain flags. -/
inductive Condition where
  | textStart
  | textEnd
  | lineStart (carriageReturns : Bool)
  | lineEnd (carriageReturns : Bool)
  | word (place : WordPlace) (unicode : Bool)
deriving DecidableEq

/-- A part of a pattern, apart from where it stands in it. -/
inductive Shape where
  /-- The empty text. -/
  | nothing
  | text (chars : List Char)
  /-- One of the characters in sorted ranges, which may have been meant as bytes. -/
  | set (ranges : List (Nat × Nat)) (asBytes : Bool)
  | condition (condition : Condition)
  | repetition (repeats : Repeats) (part : Shape)
  | capture (part : Shape)
  /-- Two or more parts in a row. -/
  | sequence (parts : List Shape)
  /-- Two or more branches. -/
  | choice (branches : List Shape)

/-- In which order the parts of a text are read. -/
inductive Direction where
  | forward
  | backward
deriving DecidableEq

/-- Parts in the order in which they are read. -/
def Direction.arrange {α : Type} : Direction → List α → List α
  | forward, parts => parts
  | backward, parts => parts.reverse

/-- The condition that holds only where reading begins. -/
def Direction.origin : Direction → Condition
  | forward => .textStart
  | backward => .textEnd

namespace Shape

/-! ### What shapes match -/

mutual

/-- Whether two shapes are the same. No two captures are. -/
def same : Shape → Shape → Bool
  | nothing, nothing => true
  | text a, text b => a = b
  | set a asBytes, set b bytes => a = b && asBytes = bytes
  | condition a, condition b => a = b
  | repetition a part, repetition b other => a = b && part.same other
  | sequence a, sequence b | choice a, choice b => sameAll a b
  | _, _ => false

/-- Whether two lists of shapes are the same. -/
def sameAll : List Shape → List Shape → Bool
  | [], [] => true
  | a :: parts, b :: others => a.same b && sameAll parts others
  | _, _ => false

end

mutual

/-- The fewest characters in what a shape matches. It is not known where a part of the shape
matches nothing at all. -/
def leastLength? : Shape → Option Nat
  | nothing | condition _ => some 0
  | text chars => some chars.length
  | set ranges _ => if ranges.isEmpty then none else some 1
  | repetition repeats part => part.leastLength?.map (repeats.least * ·)
  | capture part => part.leastLength?
  | sequence parts => (leastLengths? parts).map (·.foldl Nat.add 0)
  | choice branches => (leastLengths? branches).bind List.min?

/-- The fewest characters in what each of several shapes matches. -/
def leastLengths? : List Shape → Option (List Nat)
  | [] => some []
  | part :: parts => do return (← part.leastLength?) :: (← leastLengths? parts)

end

/-- Whether there are characters in all that a shape matches. -/
def consumes (shape : Shape) : Bool := shape.leastLength?.any (0 < ·)

mutual

/-- Whether there are characters in nothing that a shape matches. -/
def isWidthless : Shape → Bool
  | nothing | condition _ => true
  | text _ | set _ _ => false
  | repetition _ part | capture part => part.isWidthless
  | sequence parts | choice parts => areWidthless parts

/-- Whether several shapes are widthless. -/
def areWidthless : List Shape → Bool
  | [] => true
  | part :: parts => part.isWidthless && areWidthless parts

end

/-- Whether one of several parts is bound to the origin, and all in front of it are widthless.
Of each part it is told whether it is bound, and whether it is widthless. -/
def reachesOrigin : List (Bool × Bool) → Bool
  | [] => false
  | (isBound, isWidthless) :: rest => isBound || (isWidthless && reachesOrigin rest)

mutual

/-- Whether a shape matches only where reading begins. -/
def isBound (direction : Direction) : Shape → Bool
  | nothing | text _ | set _ _ => false
  | condition place => place = direction.origin
  | repetition repeats part => 0 < repeats.least && part.isBound direction
  | capture part => part.isBound direction
  | sequence parts => reachesOrigin (direction.arrange (bindings direction parts))
  | choice branches => (bindings direction branches).all (·.1)

/-- Which of several shapes are bound to the origin, and which are widthless. -/
def bindings (direction : Direction) : List Shape → List (Bool × Bool)
  | [] => []
  | part :: parts => (part.isBound direction, part.isWidthless) :: bindings direction parts

end

/-! ### Plain shapes -/

/-- The character that a shape is, if it is one. -/
def char? : Shape → Option Char
  | text [c] => some c
  | _ => none

/-- The characters that a shape is, if it is a text. -/
def text? : Shape → Option (List Char)
  | text chars => some chars
  | _ => none

/-- The ranges of characters that a shape is, if it is a set. -/
def ranges? : Shape → Option (List (Nat × Nat))
  | set ranges _ => some ranges
  | _ => none

/-- The shapes that a shape has in a row. -/
def parts : Shape → List Shape
  | sequence parts => parts
  | nothing => []
  | shape => [shape]

/-- The shapes between which a shape is a choice. -/
def branches : Shape → List Shape
  | choice branches => branches
  | shape => [shape]

/-- One of the characters in sorted ranges, which is a text if there is only one. -/
def ofRanges (ranges : List (Nat × Nat)) (asBytes : Bool) : Shape :=
  match ranges with
  | [] => set [] true
  | [(low, high)] => if low = high then text [Char.ofNat low] else set ranges asBytes
  | _ => set ranges asBytes

/-- Parts in a row with one more in front, where texts are joined. -/
def prepend : Shape → List Shape → List Shape
  | text chars, text more :: parts => text (chars ++ more) :: parts
  | part, parts => part :: parts

/-- Parts in a row. -/
def ofParts (row : List Shape) : Shape :=
  match (row.flatMap parts).foldr prepend [] with
  | [] => nothing
  | [part] => part
  | row => sequence row

/-- Repeats that are no more than one. -/
def atMostOnce (repeats : Repeats) : Repeats :=
  { repeats with
    least := Nat.min repeats.least 1
    most := some (Nat.min (repeats.most.getD 1) 1) }

/-- A part that is repeated. There is no need to repeat what is widthless. -/
def repeated (repeats : Repeats) (part : Shape) : Shape :=
  match if part.isWidthless then atMostOnce repeats else repeats with
  | ⟨_, some 0, _⟩ => nothing
  | ⟨1, some 1, _⟩ => part
  | repeats => repetition repeats part

/-- A choice between shapes, where characters and sets are joined. -/
def joined (shapes : List Shape) : Shape :=
  let shapes := shapes.flatMap branches
  match shapes, shapes.mapM char?, shapes.mapM ranges? with
  | [shape], _, _ => shape
  | _, some chars, _ =>
    ofRanges (Text.unionRanges (chars.map fun c => (c.toNat, c.toNat))) false
  | _, none, some sets => ofRanges (Text.unionRanges sets.flatten) false
  | _, none, none => choice shapes

/-- What two rows of parts begin with. -/
def sharedStart : List Shape → List Shape → List Shape
  | a :: row, b :: other => if a.same b then a :: sharedStart row other else []
  | _, _ => []

/-- What all branches begin with, if each of them is a row of parts. -/
def sharedParts : List Shape → List Shape
  | [] => []
  | [sequence row] => row
  | sequence row :: rest => sharedStart row (sharedParts rest)
  | _ => []

/-- A choice between shapes. What they all begin with stands in front of it. -/
def ofBranches (shapes : List Shape) : Shape :=
  match joined shapes with
  | choice shapes =>
    match sharedParts shapes with
    | [] => choice shapes
    | shared =>
      let rests := shapes.map fun shape => ofParts (shape.parts.drop shared.length)
      ofParts (shared ++ [joined rests])
  | shape => shape

end Shape

end Gridcalc.Log.Pattern
