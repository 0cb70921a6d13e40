import Gridcalc.Libraries.Log.Pattern.Draft

/-! # The size of automata

A pattern is matched by two automata, one that reads forward and one that reads backward.
A part that is repeated so many times is in them so many times, and a short pattern can need
more room than there is. -/

namespace Gridcalc.Log.Pattern

namespace Shape

mutual

/-- A draft with the states of a shape. Only forward reading marks where a capture begins and
ends. -/
def draw (direction : Direction) : Shape → Draft → Draft
  | nothing, draft | condition _, draft => draft.addState
  | text chars, draft => draft.addStates (chars.foldl (fun count c => count + c.utf8Size) 0)
  | set ranges _, draft => draft.addSet direction ranges
  | repetition repeats part, draft =>
    draft.addRepeated repeats part.consumes (part.draw direction)
  | capture part, draft =>
    match direction with
    | .forward => (part.draw .forward draft.addState).onward.addState
    | .backward => part.draw .backward draft
  | sequence parts, draft => draft.addRow (direction.arrange (drawings direction parts))
  | choice branches, draft =>
    match branches.mapM text? with
    | some texts => draft.addTexts direction texts
    | none => draft.addBranches (drawings direction branches)

/-- How several shapes are drawn. -/
def drawings (direction : Direction) : List Shape → List (Draft → Draft)
  | [] => []
  | part :: parts => part.draw direction :: drawings direction parts

end

/-- The automaton for a shape. It begins with a loop over what stands before a match, unless
the shape matches only where reading begins, and ends in a state that tells of a match. -/
def automaton (direction : Direction) (shape : Shape) : Draft :=
  let start : Draft :=
    if shape.isBound direction then Draft.addState {}
    else ((Draft.addStates 3 {}).addWays 1).addForks 2
  ((capture shape).draw direction start).onward.addState

/-- Whether a shape is a choice between so many texts that they are looked for without
automata. -/
def isWordList : Shape → Bool
  | choice branches => 3000 ≤ branches.length && branches.all (·.text?.isSome)
  | _ => false

/-- Whether the automata for a shape are not too large. -/
def fits (shape : Shape) : Bool :=
  shape.isWordList || ((shape.automaton .backward).fits && (shape.automaton .forward).fits)

end Shape

end Gridcalc.Log.Pattern
