import Gridcalc.Formula.Expr.Basic
import Gridcalc.Formula.Literal

/-! # Printing expressions

Every binary operation is printed in parentheses, and parentheses that were written are
not, so the printed form shows how operators and operands belong together. -/

namespace Gridcalc.Formula

/-- The spelling under which an operator is printed; division has two spellings and is
printed as a slash. -/
def BinaryOp.spelling : BinaryOp → String
  | add => "+"
  | sub => "-"
  | mul => "*"
  | div => "/"
  | mod => "mod"
  | pow => "^"
  | eq => "="
  | neq => "<>"
  | lt => "<"
  | gt => ">"
  | le => "<="
  | ge => ">="
  | and => "and"
  | or => "or"
  | eqv => "eqv"

namespace Expr

mutual

/-- The printed form, with parentheses around every binary operation. The step
operators are printed behind their operand wherever they were written. -/
def render : Expr → String
  | number value => toString value
  | text content => quoteLiteral content
  | cell address => address
  | unary .negate operand => "-" ++ operand.render
  | unary .identity operand => "+" ++ operand.render
  | unary .increment operand => operand.render ++ "++"
  | unary .decrement operand => operand.render ++ "--"
  | unary .not operand => "not " ++ operand.render
  | binary op left right =>
    "(" ++ left.render ++ " " ++ op.spelling ++ " " ++ right.render ++ ")"
  | call function args => function.name ++ "(" ++ ", ".intercalate (renderAll args) ++ ")"
  | group inner => inner.render

/-- The printed forms of a list of expressions. -/
def renderAll : List Expr → List String
  | [] => []
  | e :: rest => e.render :: renderAll rest

end

end Expr
end Gridcalc.Formula
