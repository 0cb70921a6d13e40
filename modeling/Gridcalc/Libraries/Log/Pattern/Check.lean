import Gridcalc.Libraries.Log.Pattern.Automaton
import Gridcalc.Libraries.Log.Pattern.Depth
import Gridcalc.Libraries.Log.Pattern.Meaning
import Gridcalc.Libraries.Log.Pattern.Parser

/-! # Checking patterns

A pattern is refused for the first of three reasons: its grammar, the depth to which its
parts are nested, and its meaning. A pattern without an error is still refused if the
automata for it would be too large. -/

namespace Gridcalc.Log.Pattern

/-- Why a pattern is refused. -/
inductive Refusal where
  | flawed (error : Error)
  | tooLarge
deriving DecidableEq

/-- The text of a refusal of a pattern. -/
def Refusal.message (pattern : String) : Refusal → String
  | flawed error => error.message pattern
  | tooLarge => "Compiled regex exceeds size limit of " ++ toString roomLimit ++ " bytes."

/-- How many parts can be nested in one another. -/
def nestingLimit : Nat := 250

/-- The shape of a pattern without errors. -/
def shape (pattern : String) : Except Error Shape := do
  let node ← Node.read pattern
  match node.tooDeep? nestingLimit with
  | some span => .error ⟨span, .nestedTooDeep nestingLimit⟩
  | none => return (← node.meaning {}).1

/-- **Why a pattern is refused**, if it is. -/
def refusal? (pattern : String) : Option Refusal :=
  match shape pattern with
  | .error error => some (.flawed error)
  | .ok shape => if shape.fits then none else some .tooLarge

end Gridcalc.Log.Pattern
