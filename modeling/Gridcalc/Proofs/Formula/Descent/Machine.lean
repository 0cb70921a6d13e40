import Gridcalc.Proofs.Formula.Grammar
import Mathlib.Logic.Relation

/-! # Recursive descent, step by step

The readers of the grammar rules call each other.  How far one has come is known from the tokens
that are left, how many constructs are open from the levels that are left, and what waits for the
rule that is being read from nothing at all.  Here the same reading is done by a machine that keeps
these in its state: a position in the tokens, a counter of open constructs, and a stack of the
readers that wait (`State`).

The machine takes all it knows of the text from the token at its position, and it adds to the
counter and takes from it where the constructs are opened and closed.  A position behind the end of
the text is a crash, and so is taking from a counter of zero (`Progress.crash`).  So nothing is
supposed about either; that no run crashes has to be shown.
-/
namespace Gridcalc.Formula

/-- The tokens from a position on.  Behind the last token stands the end, and no position is behind
the end. -/
def Tokens.skip? (tokens : Tokens) (pos : Nat) : Option Tokens :=
  if pos ≤ tokens.ahead.length then some { tokens with ahead := tokens.ahead.drop pos } else none

namespace Descent

/-! ### States -/

/-- A call that is being read. -/
structure Call where
  /-- Where its name stands. -/
  start : Nat
  function : Builtin
  /-- The arguments so far, the latest first. -/
  read : List Tree
  /-- The greatest height among them. -/
  height : Nat

/-- A reader that waits for another one. -/
inductive Frame where
  /-- A tier waits for its first operand. -/
  | first (tier : Tier)
  /-- A tier waits for the operand behind an operator. -/
  | next (tier : Tier) (left : Tree) (op : BinaryOp)
  | not
  | sign (op : UnaryOp)
  /-- An operand is to come, with steps behind it. -/
  | steps
  | group
  | argument (call : Call)

/-- What is done next. -/
inductive Control where
  /-- The whole formula is read. -/
  | start
  | read (rule : Rule)
  /-- A name was passed, and has to be that of a call. -/
  | word (name : String) (start : Nat)
  /-- More operands of a tier are read, behind those that were read. -/
  | chain (tier : Tier) (left : Tree)
  /-- More steps are read. -/
  | steps (operand : Tree)
  /-- More arguments are read. -/
  | arguments (call : Call)
  /-- The parenthesis behind an expression is read. -/
  | closeGroup (inner : Tree)
  /-- The parenthesis behind the last argument is read. -/
  | closeCall (call : Call)
  /-- A phrase of a rule was read as a tree, which the reader that waits for it gets. -/
  | give (rule : Rule) (tree : Tree)
  /-- The formula is refused at the token ahead. -/
  | refuse (fault : SyntaxFault)

structure State where
  control : Control
  /-- The readers that wait, the innermost first. -/
  stack : List Frame
  /-- How many tokens were passed. -/
  pos : Nat
  /-- How many constructs are counted as open. -/
  nesting : Nat

/-- What a step leads to. -/
inductive Progress where
  | next (state : State)
  | stop (outcome : Except FormulaError Expr)
  | crash

def Call.add (call : Call) (tree : Tree) : Call :=
  { call with read := tree :: call.read, height := max call.height tree.height }

/-- The greatest height among some trees. -/
def tallest (trees : List Tree) : Nat :=
  trees.foldl (fun height tree => max height tree.height) 0

theorem tallest_add (tree : Tree) (read : List Tree) :
    tallest (tree :: read).reverse = max (tallest read.reverse) tree.height := by
  rw [tallest, List.reverse_cons, List.foldl_append]
  rfl

/-! ### Steps -/

namespace State
variable (here : Tokens) (s : State)

/-- Does something else at the same place. -/
def goto (control : Control) : State := { s with control }

/-- Passes the token ahead.  The end is not passed. -/
def pass : State := { s with pos := if here.next? = none then s.pos else s.pos + 1 }

/-- Reads a rule, and has a reader wait for it. -/
def enter (frame : Frame) (rule : Rule) : State :=
  { s with control := .read rule, stack := frame :: s.stack }

/-- Opens a construct at its token and reads the rule behind that, unless too many are open. -/
def descend (frame : Frame) (rule : Rule) : State :=
  if maxNesting ≤ s.nesting then s.goto (.refuse .nestedTooDeeply)
  else { s.pass here with nesting := s.nesting + 1 }.enter frame rule

/-- Closes a construct, for which no reader waits any more. -/
def ascend (rest : List Frame) (go : State → State) : Progress :=
  match s.nesting with
  | 0 => .crash
  | nesting + 1 => .next (go { s with stack := rest, nesting })

/-- Puts a node over trees of at most the given height, unless it is too high. -/
def grow (expr : Expr) (height : Nat) (use : Tree → Control) : State :=
  if maxHeight ≤ height then s.goto (.refuse .nestedTooDeeply)
  else s.goto (use ⟨expr, height + 1⟩)

/-- Passes a certain symbol and refuses anything else. -/
def expect (wanted : Symbol) (go : State → State) : State :=
  if here.next? = some (.symbol wanted) then go (s.pass here)
  else s.goto (.refuse (.expected wanted here.next?))

/-- Goes back to a token and refuses the formula there. -/
def refuseAt (pos : Nat) (fault : SyntaxFault) : State := { s with control := .refuse fault, pos }

/-- Reads a primary, or only the name at its beginning. -/
def readPrimary : State :=
  match here.next? with
  | some (.number value) => (s.pass here).goto (.give .primary (.leaf (.number value)))
  | some (.text content) => (s.pass here).goto (.give .primary (.leaf (.text content)))
  | some (.cell address) =>
    match CellRef.canonical address with
    | .ok canonical => (s.pass here).goto (.give .primary (.leaf (.cell canonical)))
    | .error error => s.goto (.refuse (.badAddress error))
  | some (.name name) => (s.pass here).goto (.word name s.pos)
  | some (.symbol .openParen) => s.descend here .group (.tier .logical)
  | some token => s.goto (.refuse (.unexpected token))
  | none => s.goto (.refuse .unexpectedEnd)

/-- Begins with a rule. -/
def readRule : Rule → State
  | .tier tier => s.enter (.first tier) tier.operand
  | .negation =>
    if here.next? = some (.keyword .not) then s.descend here .not .negation
    else s.goto (.read (.tier .comparison))
  | .signed =>
    match here.next?.bind signOp? with
    | some op => s.descend here (.sign op) .signed
    | none => s.goto (.read .stepped)
  | .stepped => s.enter .steps .primary
  | .primary => s.readPrimary here

/-- Begins with the arguments of a call, behind its name. -/
def readWord (name : String) (start : Nat) : State :=
  if here.next? = some (.symbol .openParen) then
    match Builtin.ofName? name with
    | none => s.refuseAt start (.unknownFunction name)
    | some function => s.descend here (.argument ⟨start, function, [], 0⟩) (.tier .logical)
  else s.refuseAt start (.unknownName name)

/-- Ends a call behind its parenthesis. -/
def finishCall (call : Call) : State :=
  if call.function.accepts call.read.length then
    s.grow (.call call.function (call.read.reverse.map (·.expr))) call.height (.give .primary)
  else s.refuseAt call.start (.wrongArity call.function call.read.length)

/-- Gives a tree to the reader that waits for it. -/
def giveTo (tree : Tree) : List Frame → Progress
  | [] =>
    match here.next? with
    | none => .stop (.ok tree.expr)
    | some token => .next (s.goto (.refuse (.trailing token)))
  | .first tier :: rest => .next { s with control := .chain tier tree, stack := rest }
  | .next tier left op :: rest =>
    .next ({ s with stack := rest }.grow (.binary op left.expr tree.expr)
      (max left.height tree.height) (.chain tier))
  | .not :: rest =>
    s.ascend rest (·.grow (.unary .not tree.expr) tree.height (.give .negation))
  | .sign op :: rest => s.ascend rest (·.grow (.unary op tree.expr) tree.height (.give .signed))
  | .steps :: rest => .next { s with control := .steps tree, stack := rest }
  | .group :: rest => s.ascend rest (·.goto (.closeGroup tree))
  | .argument call :: rest =>
    .next { s with control := .arguments (call.add tree), stack := rest }

end State

/-- **One step of the machine.** -/
def step (tokens : Tokens) (s : State) : Progress :=
  match tokens.skip? s.pos with
  | none => .crash
  | some here =>
    match s.control with
    | .start =>
      .next (s.goto (if here.next? = none then .refuse .emptyFormula else .read (.tier .logical)))
    | .read rule => .next (s.readRule here rule)
    | .word name start => .next (s.readWord here name start)
    | .chain tier left =>
      match here.next?.bind tier.op? with
      | some op => .next ((s.pass here).enter (.next tier left op) tier.operand)
      | none => .next (s.goto (.give (.tier tier) left))
    | .steps operand =>
      match here.next?.bind stepOp? with
      | some op => .next ((s.pass here).grow (.unary op operand.expr) operand.height .steps)
      | none => .next (s.goto (.give .stepped operand))
    | .arguments call =>
      if here.next? = some (.symbol .comma) then
        .next ((s.pass here).enter (.argument call) (.tier .logical))
      else s.ascend s.stack (·.goto (.closeCall call))
    | .closeGroup inner =>
      .next (s.expect here .closeParen
        (·.grow (.group inner.expr) inner.height (.give .primary)))
    | .closeCall call => .next (s.expect here .closeParen (·.finishCall call))
    | .give _ tree => s.giveTo here tree s.stack
    | .refuse fault => .stop (here.fail fault)

/-- The machine goes from one state to another. -/
def Step (tokens : Tokens) (s t : State) : Prop := step tokens s = .next t

/-- The machine before its first step. -/
def initial : State := ⟨.start, [], 0, 0⟩

/-- **The states of the run over some tokens.** -/
def Reached (tokens : Tokens) (s : State) : Prop := Relation.ReflTransGen (Step tokens) initial s

end Descent
end Gridcalc.Formula
