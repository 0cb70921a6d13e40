import Gridcalc.Formula.Expr.Parser
import Std.Data.ExtTreeSet

/-! # References of a formula

The cells a formula reads are the cell nodes of its tree, by canonical address. An
address inside a text literal is text and no reference. -/

namespace Gridcalc.Formula

/-- The address of a cell node. -/
def Expr.address? : Expr → Option String
  | .cell address => some address
  | _ => none

/-- The addresses that an expression refers to. -/
def Expr.references (e : Expr) : Std.ExtTreeSet String :=
  .ofList (e.nodes.filterMap Expr.address?)

/-- The addresses that a formula refers to, or the error that keeps it from reading. -/
def references (formula : String) : Except FormulaError (Std.ExtTreeSet String) :=
  (parse formula).map Expr.references

end Gridcalc.Formula
