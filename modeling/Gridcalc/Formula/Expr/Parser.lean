import Gridcalc.Formula.Token.Lexer

/-! # Reading expressions

The grammar, loosest binding first; operators of one line group to the left.

```text
formula        = "="? logical
logical        = negation (("and" | "or" | "eqv") negation)*
negation       = "not" negation | comparison
comparison     = additive (("=" | "<>" | "<" | ">" | "<=" | ">=") additive)*
additive       = multiplicative (("+" | "-") multiplicative)*
multiplicative = power (("*" | "/" | "div" | "mod") power)*
power          = signed ("^" signed)*
signed         = ("+" | "-" | "++" | "--") signed | stepped
stepped        = primary ("++" | "--")*
primary        = number | text | cell | "(" logical ")"
               | name "(" logical ("," logical)* ")"
```

Two limits keep formulas small. At most `maxNesting` parentheses, calls, signs and
negations may be open around a place of the text, and the tree may be at most
`maxHeight` nodes high. Both are reported at the token that would pass the limit.

A reader of some grammar rule takes the tokens ahead and gives a tree and the tokens
that are left. The rules are recursive only through the four constructs that nesting
counts, so the readers of one depth are built from those one level deeper (`Levels`),
and at the greatest depth there is nothing deeper to build on. -/

namespace Gridcalc.Formula

/-- How many brackets, signs and negations may be open at once. -/
def maxNesting : Nat := 100

/-- How many nodes the longest way down a tree may have. -/
def maxHeight : Nat := 512

/-- An expression with its height. -/
structure Tree where
  expr : Expr
  height : Nat

namespace Tree

/-- The tree of a single node. -/
def leaf (expr : Expr) : Tree := ⟨expr, 1⟩

end Tree

/-- Reads a grammar rule from the tokens ahead and leaves the rest. -/
abbrev Reader (α : Type) := Tokens → Except FormulaError (α × Tokens)

namespace Tokens

/-- Refuses the formula at the token ahead. -/
def fail {α : Type} (tokens : Tokens) (fault : SyntaxFault) : Except FormulaError α :=
  .error (.malformed tokens.offset fault)

/-- Passes a certain symbol and refuses anything else. -/
def expect (tokens : Tokens) (wanted : Symbol) : Except FormulaError Tokens :=
  if tokens.next? = some (.symbol wanted) then .ok tokens.advance
  else tokens.fail (.expected wanted tokens.next?)

/-- Puts a node over trees of at most the given height. The tokens are those behind the
node: there a tree that grows too high is reported. -/
def grow (tokens : Tokens) (expr : Expr) (height : Nat) : Except FormulaError Tree :=
  if maxHeight ≤ height then tokens.fail .nestedTooDeeply else .ok ⟨expr, height + 1⟩

end Tokens

/-! ### Operators by their tokens -/

/-- The operators of the logical level. -/
def logicalOp? : Token → Option BinaryOp
  | .keyword .and => some .and
  | .keyword .or => some .or
  | .keyword .eqv => some .eqv
  | _ => none

/-- The operators that compare. -/
def comparisonOp? : Token → Option BinaryOp
  | .symbol .equal => some .eq
  | .symbol .notEqual => some .neq
  | .symbol .less => some .lt
  | .symbol .greater => some .gt
  | .symbol .lessEqual => some .le
  | .symbol .greaterEqual => some .ge
  | _ => none

/-- The operators of sums. -/
def additiveOp? : Token → Option BinaryOp
  | .symbol .plus => some .add
  | .symbol .minus => some .sub
  | _ => none

/-- The operators of products; division has a symbol and a word. -/
def multiplicativeOp? : Token → Option BinaryOp
  | .symbol .star => some .mul
  | .symbol .slash => some .div
  | .keyword .div => some .div
  | .keyword .mod => some .mod
  | _ => none

/-- The operator of powers. -/
def powerOp? : Token → Option BinaryOp
  | .symbol .caret => some .pow
  | _ => none

/-- The operators in front of an operand. -/
def signOp? : Token → Option UnaryOp
  | .symbol .minus => some .negate
  | .symbol .plus => some .identity
  | .symbol .increment => some .increment
  | .symbol .decrement => some .decrement
  | _ => none

/-- The operators behind an operand. -/
def stepOp? : Token → Option UnaryOp
  | .symbol .increment => some .increment
  | .symbol .decrement => some .decrement
  | _ => none

/-! ### Repetition

Every round of a repetition takes at least one token, so the number of tokens of the
whole formula bounds the rounds. -/

/-- Goes on from a left operand with pairs of an operator and a right operand, and
groups them to the left. -/
def chainFrom (op? : Token → Option BinaryOp) (operand : Reader Tree) :
    Nat → Tree → Reader Tree
  | 0, left, tokens => .ok (left, tokens)
  | rounds + 1, left, tokens =>
    match tokens.next?.bind op? with
    | none => .ok (left, tokens)
    | some op => do
      let (right, tokens) ← operand tokens.advance
      let node ← tokens.grow (.binary op left.expr right.expr) (max left.height right.height)
      chainFrom op? operand rounds node tokens

/-- Operands joined by the operators of one level. -/
def chain (op? : Token → Option BinaryOp) (operand : Reader Tree) (size : Nat) :
    Reader Tree := fun tokens => do
  let (left, tokens) ← operand tokens
  chainFrom op? operand size left tokens

/-- Goes on from an operand with step operators behind it. -/
def stepsFrom : Nat → Tree → Reader Tree
  | 0, operand, tokens => .ok (operand, tokens)
  | rounds + 1, operand, tokens =>
    match tokens.next?.bind stepOp? with
    | none => .ok (operand, tokens)
    | some op => do
      let node ← tokens.advance.grow (.unary op operand.expr) operand.height
      stepsFrom rounds node tokens.advance

/-- The arguments behind the first one, each after a comma. The arguments read so far
are kept with the latest first. -/
def argumentsFrom (argument : Reader Tree) : Nat → List Tree → Reader (List Tree)
  | 0, read, tokens => .ok (read.reverse, tokens)
  | rounds + 1, read, tokens =>
    if tokens.next? = some (.symbol .comma) then do
      let (tree, tokens) ← argument tokens.advance
      argumentsFrom argument rounds (tree :: read) tokens
    else .ok (read.reverse, tokens)

/-! ### The grammar rules -/

/-- The readers of the three rules that the nested constructs lead to, for one depth. -/
structure Levels where
  logical : Reader Tree
  negation : Reader Tree
  signed : Reader Tree

section
variable (size : Nat) (deeper : Option Levels)

/-- The readers one level deeper; with all levels in use the formula is refused. -/
def descend (tokens : Tokens) : Except FormulaError Levels :=
  match deeper with
  | some levels => .ok levels
  | none => tokens.fail .nestedTooDeeply

/-- A call of the function with this name, which is the token ahead. -/
def call (name : String) : Reader Tree := fun tokens =>
  let bracket := tokens.advance
  if bracket.next? = some (.symbol .openParen) then
    match Builtin.ofName? name with
    | none => tokens.fail (.unknownFunction name)
    | some function => do
      let levels ← descend deeper bracket
      let (first, rest) ← levels.logical bracket.advance
      let (trees, rest) ← argumentsFrom levels.logical size [first] rest
      let rest ← rest.expect .closeParen
      if function.accepts trees.length then do
        let node ← rest.grow (.call function (trees.map (·.expr)))
          (trees.foldl (fun height tree => max height tree.height) 0)
        return (node, rest)
      else tokens.fail (.wrongArity function trees.length)
  else tokens.fail (.unknownName name)

/-- A number, a text, a cell, a call, or an expression in parentheses. -/
def primary : Reader Tree := fun tokens =>
  match tokens.next? with
  | some (.number value) => .ok (.leaf (.number value), tokens.advance)
  | some (.text content) => .ok (.leaf (.text content), tokens.advance)
  | some (.cell address) =>
    match CellRef.canonical address with
    | .ok canonical => .ok (.leaf (.cell canonical), tokens.advance)
    | .error error => tokens.fail (.badAddress error)
  | some (.name name) => call size deeper name tokens
  | some (.symbol .openParen) => do
    let levels ← descend deeper tokens
    let (inner, rest) ← levels.logical tokens.advance
    let rest ← rest.expect .closeParen
    let node ← rest.grow (.group inner.expr) inner.height
    return (node, rest)
  | some token => tokens.fail (.unexpected token)
  | none => tokens.fail .unexpectedEnd

/-- A primary with step operators behind it. -/
def stepped : Reader Tree := fun tokens => do
  let (operand, rest) ← primary size deeper tokens
  stepsFrom size operand rest

/-- An operand with signs or step operators in front of it. -/
def signed : Reader Tree := fun tokens =>
  match tokens.next?.bind signOp? with
  | some op => do
    let levels ← descend deeper tokens
    let (operand, rest) ← levels.signed tokens.advance
    let node ← rest.grow (.unary op operand.expr) operand.height
    return (node, rest)
  | none => stepped size deeper tokens

/-- Powers. -/
def power : Reader Tree := chain powerOp? (signed size deeper) size

/-- Products. -/
def multiplicative : Reader Tree := chain multiplicativeOp? (power size deeper) size

/-- Sums. -/
def additive : Reader Tree := chain additiveOp? (multiplicative size deeper) size

/-- Comparisons. -/
def comparison : Reader Tree := chain comparisonOp? (additive size deeper) size

/-- A comparison with negations in front of it. -/
def negation : Reader Tree := fun tokens =>
  if tokens.next? = some (.keyword .not) then do
    let levels ← descend deeper tokens
    let (operand, rest) ← levels.negation tokens.advance
    let node ← rest.grow (.unary .not operand.expr) operand.height
    return (node, rest)
  else comparison size deeper tokens

/-- Negations joined by logical operators. -/
def logical : Reader Tree := chain logicalOp? (negation size deeper) size

end

/-- The readers that may still go so many levels deeper than they are, or none when no
level is left. -/
def levels? (size : Nat) : Nat → Option Levels
  | 0 => none
  | room + 1 =>
    let deeper := levels? size room
    some ⟨logical size deeper, negation size deeper, signed size deeper⟩

/-- The expression that all the tokens make up. -/
def parseTokens (tokens : Tokens) : Except FormulaError Expr :=
  if tokens.next? = none then tokens.fail .emptyFormula
  else do
    let size := tokens.ahead.length
    let (tree, rest) ← logical size (levels? size maxNesting) tokens
    match rest.next? with
    | none => return tree.expr
    | some token => rest.fail (.trailing token)

/-- The expression of a formula's text without its equals sign. -/
def parseBody (text : String) : Except FormulaError Expr := do
  let tokens ← tokenize text
  parseTokens tokens

/-- **The expression of a formula.** One equals sign may stand in front; offsets count it. -/
def parse (formula : String) : Except FormulaError Expr :=
  match formula.toList with
  | '=' :: body => (parseBody (String.ofList body)).mapError (·.shift 1)
  | _ => parseBody formula

end Gridcalc.Formula
