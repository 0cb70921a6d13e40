/-! # Expressions

The tree that a formula denotes. Cells are named by their canonical addresses, and
parentheses are a node of their own (`Expr.group`). -/

namespace Gridcalc.Formula

/-- Operators with one operand. -/
inductive UnaryOp where
  | negate
  | identity
  | increment
  | decrement
  | not
deriving DecidableEq

/-- Operators with two operands. -/
inductive BinaryOp where
  | add
  | sub
  | mul
  | div
  | mod
  | pow
  | eq
  | neq
  | lt
  | gt
  | le
  | ge
  | and
  | or
  | eqv
deriving DecidableEq

/-- The functions a formula can call. -/
inductive Builtin where
  /-- The greater of two numbers. -/
  | max
  /-- The lesser of two numbers. -/
  | min
  /-- The greatest of one or more numbers. -/
  | mmax
  /-- The least of one or more numbers. -/
  | mmin
deriving DecidableEq

namespace Builtin

/-- The lower-case name. -/
def name : Builtin → String
  | max => "max"
  | min => "min"
  | mmax => "mmax"
  | mmin => "mmin"

/-- Every function. -/
def all : List Builtin := [max, min, mmax, mmin]

/-- The function of a name, in any case. -/
def ofName? (word : String) : Option Builtin :=
  all.find? (·.name.toList = word.toList.map Char.toLower)

/-- Whether the function can be called with so many arguments. -/
def accepts : Builtin → Nat → Bool
  | max, count | min, count => count == 2
  | mmax, count | mmin, count => 1 ≤ count

end Builtin

/-- An expression. -/
inductive Expr where
  | number (value : Int)
  | text (content : String)
  /-- A reference to the cell with this canonical address. -/
  | cell (address : String)
  | unary (op : UnaryOp) (operand : Expr)
  | binary (op : BinaryOp) (left right : Expr)
  | call (function : Builtin) (args : List Expr)
  /-- An expression in parentheses. -/
  | group (inner : Expr)
deriving Inhabited

namespace Expr

mutual

/-- Every node of the tree, each before the nodes under it and those from left to
right. -/
def nodes : Expr → List Expr
  | number value => [number value]
  | text content => [text content]
  | cell address => [cell address]
  | unary op operand => unary op operand :: operand.nodes
  | binary op left right => binary op left right :: (left.nodes ++ right.nodes)
  | call function args => call function args :: nodesAll args
  | group inner => group inner :: inner.nodes

/-- The nodes of a list of expressions, one expression after another. -/
def nodesAll : List Expr → List Expr
  | [] => []
  | e :: rest => e.nodes ++ nodesAll rest

end

mutual

/-- The number of nodes on the longest way down the tree. -/
def height : Expr → Nat
  | number _ | text _ | cell _ => 1
  | unary _ operand => operand.height + 1
  | binary _ left right => Nat.max left.height right.height + 1
  | call _ args => heightAll args + 1
  | group inner => inner.height + 1

/-- The greatest height in a list of expressions. -/
def heightAll : List Expr → Nat
  | [] => 0
  | e :: rest => Nat.max e.height (heightAll rest)

end

end Expr
end Gridcalc.Formula
