import Gridcalc.Formula.Expr.Parser
import Gridcalc.Formula.Value

/-! # Evaluation

An expression is evaluated under a lookup that gives the text a cell shows. Operands
are evaluated from left to right and all of them, also where one would decide the
result alone; the first operation without a result ends the evaluation. Division and
remainder divide toward zero and by the absolute value of the divisor respectively, so
a remainder is never negative. -/

namespace Gridcalc

/-- Bounds on what a formula may compute. -/
structure Limits where
  /-- The greatest exponent that a power may have. -/
  maxExponent : UInt32 := 2147483647
deriving DecidableEq

/-- The text that a cell shows, by address; a cell that was never written shows none. -/
abbrev Lookup := String → Option String

namespace Formula

/-- The quotient, rounded toward zero. -/
def divide (l r : Int) : Except ArithmeticFault Int :=
  if r = 0 then .error .divideByZero else .ok (l.tdiv r)

/-- The remainder, from zero up to the absolute value of the divisor. -/
def remainder (l r : Int) : Except ArithmeticFault Int :=
  if r = 0 then .error .divideByZero else .ok (l % r)

/-- The power, for an exponent from zero up to the limit. -/
def raise (limits : Limits) (base exponent : Int) : Except ArithmeticFault Int :=
  if exponent < 0 then .error (.negativeExponent exponent)
  else if limits.maxExponent.toNat < exponent.toNat then
    .error (.exponentTooLarge exponent limits.maxExponent)
  else .ok (Int.pow base exponent.toNat)

/-- The result of an operator with one operand. -/
def UnaryOp.apply : UnaryOp → Value → Value
  | negate, v => .number (-v.toNumber)
  | identity, v => .number v.toNumber
  | increment, v => .number (v.toNumber + 1)
  | decrement, v => .number (v.toNumber - 1)
  | not, v => .bool (!v.toBool)

/-- The result of an operator with two operands. Comparisons compare numbers. -/
def BinaryOp.apply (limits : Limits) :
    BinaryOp → Value → Value → Except ArithmeticFault Value
  | add, l, r => .ok (.number (l.toNumber + r.toNumber))
  | sub, l, r => .ok (.number (l.toNumber - r.toNumber))
  | mul, l, r => .ok (.number (l.toNumber * r.toNumber))
  | div, l, r => (divide l.toNumber r.toNumber).map .number
  | mod, l, r => (remainder l.toNumber r.toNumber).map .number
  | pow, l, r => (raise limits l.toNumber r.toNumber).map .number
  | eq, l, r => .ok (.bool (l.toNumber == r.toNumber))
  | neq, l, r => .ok (.bool (l.toNumber != r.toNumber))
  | lt, l, r => .ok (.bool (l.toNumber < r.toNumber))
  | gt, l, r => .ok (.bool (r.toNumber < l.toNumber))
  | le, l, r => .ok (.bool (l.toNumber ≤ r.toNumber))
  | ge, l, r => .ok (.bool (r.toNumber ≤ l.toNumber))
  | and, l, r => .ok (.bool (l.toBool && r.toBool))
  | or, l, r => .ok (.bool (l.toBool || r.toBool))
  | eqv, l, r => .ok (.bool (l.toBool == r.toBool))

/-- The result of a function; of no arguments at all it is zero. -/
def Builtin.apply : Builtin → List Int → Int
  | max, args | mmax, args => args.max?.getD 0
  | min, args | mmin, args => args.min?.getD 0

namespace Expr
variable (limits : Limits) (lookup : Lookup)

mutual

/-- **The value of an expression.** Every operand is evaluated before its operator, and the
first fault from the left ends the evaluation. -/
def eval : Expr → Except ArithmeticFault Value
  | number value => .ok (.number value)
  | text content => .ok (.text content)
  | cell address => .ok (.text ((lookup address).getD ""))
  | unary op operand => do
    let value ← operand.eval
    return op.apply value
  | binary op left right => do
    let l ← left.eval
    let r ← right.eval
    op.apply limits l r
  | call function args => do
    let values ← evalAll args
    return .number (function.apply (values.map Value.toNumber))
  | group inner => inner.eval

/-- The values of a list of expressions, from left to right. -/
def evalAll : List Expr → Except ArithmeticFault (List Value)
  | [] => .ok []
  | e :: rest => do
    let value ← e.eval
    let values ← evalAll rest
    return value :: values

end

end Expr

/-- The value of a formula. -/
def evaluate (limits : Limits) (lookup : Lookup) (formula : String) :
    Except FormulaError Value := do
  let e ← parse formula
  (e.eval limits lookup).mapError .arithmetic

end Formula
end Gridcalc
