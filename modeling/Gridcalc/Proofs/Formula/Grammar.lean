import Gridcalc.Formula.Expr.Parser

/-! # The grammar of formulas

`Derives rule phrase` says that the tokens of a phrase can be read by a rule of the grammar, as a
certain expression and with a certain nesting.  The rules are those of the grammar as it is
written down: a tier of binary operators is left-recursive, and nothing is said about where a
phrase stops, how much may be nested, or how high an expression may be.

`Takes` reads by the same rules from left to right, each time as far as it goes, and decides by
the token ahead what comes next.  So it has at most one result (`Takes.unique`).  What it takes is
derived (`Takes.means`), and what is derived is taken as long as nothing comes behind it that
would go on with it (`Derives.taken`).  Together these make the grammar unambiguous
(`Derives.unique`).
-/
namespace Gridcalc.Formula

/-! ### Rules -/

/-- The binary operators that bind alike, the loosest first. -/
inductive Tier where
  | logical
  | comparison
  | additive
  | multiplicative
  | power
deriving DecidableEq

/-- The rules of the grammar. -/
inductive Rule where
  /-- Operands joined by operators of one tier. -/
  | tier (tier : Tier)
  /-- A comparison with negations in front. -/
  | negation
  /-- An operand with signs in front. -/
  | signed
  /-- A primary with steps behind. -/
  | stepped
  | primary

namespace Tier

/-- The operators of a tier with their tokens. -/
def operators : Tier → List (Token × BinaryOp)
  | logical => [(.keyword .and, .and), (.keyword .or, .or), (.keyword .eqv, .eqv)]
  | comparison => [(.symbol .equal, .eq), (.symbol .notEqual, .neq), (.symbol .less, .lt),
      (.symbol .greater, .gt), (.symbol .lessEqual, .le), (.symbol .greaterEqual, .ge)]
  | additive => [(.symbol .plus, .add), (.symbol .minus, .sub)]
  | multiplicative => [(.symbol .star, .mul), (.symbol .slash, .div), (.keyword .div, .div),
      (.keyword .mod, .mod)]
  | power => [(.symbol .caret, .pow)]

/-- What the operators of a tier join. -/
def operand : Tier → Rule
  | logical => .negation
  | comparison => .tier additive
  | additive => .tier multiplicative
  | multiplicative => .tier power
  | power => .signed

/-- A tier and those that bind tighter. -/
def within : Tier → List Tier
  | logical => [logical, comparison, additive, multiplicative, power]
  | comparison => [comparison, additive, multiplicative, power]
  | additive => [additive, multiplicative, power]
  | multiplicative => [multiplicative, power]
  | power => [power]

/-- The operator of a tier that a token stands for. -/
def op? : Tier → Token → Option BinaryOp
  | logical => logicalOp?
  | comparison => comparisonOp?
  | additive => additiveOp?
  | multiplicative => multiplicativeOp?
  | power => powerOp?

end Tier

/-- The operators in front of an operand. -/
def signs : List (Token × UnaryOp) :=
  [(.symbol .plus, .identity), (.symbol .minus, .negate), (.symbol .increment, .increment),
    (.symbol .decrement, .decrement)]

/-- The operators behind an operand. -/
def steps : List (Token × UnaryOp) :=
  [(.symbol .increment, .increment), (.symbol .decrement, .decrement)]

theorem Tier.op?_eq_some {tier : Tier} {token : Token} {op : BinaryOp} :
    tier.op? token = some op ↔ (token, op) ∈ tier.operators := by
  cases tier <;> rcases token with _ | _ | _ | _ | k | s <;> (try cases k) <;> (try cases s) <;>
    simp [Tier.op?, Tier.operators, logicalOp?, comparisonOp?, additiveOp?, multiplicativeOp?,
      powerOp?, eq_comm]

theorem signOp?_eq_some {token : Token} {op : UnaryOp} :
    signOp? token = some op ↔ (token, op) ∈ signs := by
  rcases token with _ | _ | _ | _ | _ | s <;> (try cases s) <;> simp [signOp?, signs, eq_comm]

theorem stepOp?_eq_some {token : Token} {op : UnaryOp} :
    stepOp? token = some op ↔ (token, op) ∈ steps := by
  rcases token with _ | _ | _ | _ | _ | s <;> (try cases s) <;> simp [stepOp?, steps, eq_comm]

/-! ### Derivations -/

/-- Some tokens read as an expression. -/
structure Phrase where
  tokens : List Token
  expr : Expr
  /-- How many parentheses, calls, signs and negations are open around the innermost token. -/
  nesting : Nat

namespace Phrase

/-- The tokens of phrases that follow another one in a list. -/
def listed (phrases : List Phrase) : List Token :=
  phrases.flatMap fun phrase => .symbol .comma :: phrase.tokens

/-- The deepest nesting in a list of phrases, or a given one if that is deeper. -/
def deepest (least : Nat) (phrases : List Phrase) : Nat :=
  phrases.foldl (fun nesting phrase => max nesting phrase.nesting) least

end Phrase

/-- **The grammar.** -/
inductive Derives : Rule → Phrase → Prop
  | operand {tier : Tier} {phrase : Phrase} : Derives tier.operand phrase →
      Derives (.tier tier) phrase
  | binary {tier : Tier} {left right : Phrase} {token : Token} {op : BinaryOp} :
      Derives (.tier tier) left → (token, op) ∈ tier.operators → Derives tier.operand right →
      Derives (.tier tier) ⟨left.tokens ++ token :: right.tokens,
        .binary op left.expr right.expr, max left.nesting right.nesting⟩
  | not {phrase : Phrase} : Derives .negation phrase →
      Derives .negation ⟨.keyword .not :: phrase.tokens, .unary .not phrase.expr,
        phrase.nesting + 1⟩
  | comparison {phrase : Phrase} : Derives (.tier .comparison) phrase → Derives .negation phrase
  | sign {phrase : Phrase} {token : Token} {op : UnaryOp} : (token, op) ∈ signs →
      Derives .signed phrase →
      Derives .signed ⟨token :: phrase.tokens, .unary op phrase.expr, phrase.nesting + 1⟩
  | stepped {phrase : Phrase} : Derives .stepped phrase → Derives .signed phrase
  | step {phrase : Phrase} {token : Token} {op : UnaryOp} : Derives .stepped phrase →
      (token, op) ∈ steps →
      Derives .stepped ⟨phrase.tokens ++ [token], .unary op phrase.expr, phrase.nesting⟩
  | primary {phrase : Phrase} : Derives .primary phrase → Derives .stepped phrase
  | number (value : Nat) : Derives .primary ⟨[.number value], .number value, 0⟩
  | text (content : String) : Derives .primary ⟨[.text content], .text content, 0⟩
  | cell {address : String} {place : CellRef} : CellRef.parse address = .ok place →
      Derives .primary ⟨[.cell address], .cell place.address, 0⟩
  | group {phrase : Phrase} : Derives (.tier .logical) phrase →
      Derives .primary ⟨.symbol .openParen :: phrase.tokens ++ [.symbol .closeParen],
        .group phrase.expr, phrase.nesting + 1⟩
  | call {word : String} {function : Builtin} {first : Phrase} {more : List Phrase} :
      word.toList.map Char.toLower = function.name.toList →
      Derives (.tier .logical) first → (∀ phrase ∈ more, Derives (.tier .logical) phrase) →
      function.accepts (more.length + 1) = true →
      Derives .primary ⟨.name word :: .symbol .openParen :: first.tokens ++
          (Phrase.listed more ++ [.symbol .closeParen]),
        .call function (first.expr :: more.map (·.expr)),
        Phrase.deepest first.nesting more + 1⟩

/-! ### Reading from left to right -/

/-- What is to be read next. -/
inductive Goal where
  | phrase (rule : Rule)
  /-- More operands of a tier, behind what was read of it. -/
  | chain (tier : Tier) (left : Expr) (nesting : Nat)
  /-- More steps behind an operand. -/
  | steps (operand : Expr) (nesting : Nat)
  /-- More arguments and the end of a call. -/
  | arguments (function : Builtin) (read : List Expr) (nesting : Nat)

/-- **Reading without a choice.**  From the tokens ahead a goal takes as many as go into it, gives
an expression with its nesting, and leaves the rest. -/
inductive Takes : Goal → List Token → Expr → Nat → List Token → Prop
  | tier {tier : Tier} {ahead middle rest : List Token} {left e : Expr} {n m : Nat} :
      Takes (.phrase tier.operand) ahead left n middle →
      Takes (.chain tier left n) middle e m rest → Takes (.phrase (.tier tier)) ahead e m rest
  | chainStop {tier : Tier} {ahead : List Token} {left : Expr} {n : Nat} :
      ahead.head?.bind tier.op? = none → Takes (.chain tier left n) ahead left n ahead
  | chainNext {tier : Tier} {token : Token} {op : BinaryOp} {ahead middle rest : List Token}
      {left right e : Expr} {n m k : Nat} : tier.op? token = some op →
      Takes (.phrase tier.operand) ahead right m middle →
      Takes (.chain tier (.binary op left right) (max n m)) middle e k rest →
      Takes (.chain tier left n) (token :: ahead) e k rest
  | not {ahead rest : List Token} {e : Expr} {n : Nat} :
      Takes (.phrase .negation) ahead e n rest →
      Takes (.phrase .negation) (.keyword .not :: ahead) (.unary .not e) (n + 1) rest
  | comparison {ahead rest : List Token} {e : Expr} {n : Nat} :
      ahead.head? ≠ some (.keyword .not) → Takes (.phrase (.tier .comparison)) ahead e n rest →
      Takes (.phrase .negation) ahead e n rest
  | sign {token : Token} {op : UnaryOp} {ahead rest : List Token} {e : Expr} {n : Nat} :
      signOp? token = some op → Takes (.phrase .signed) ahead e n rest →
      Takes (.phrase .signed) (token :: ahead) (.unary op e) (n + 1) rest
  | stepped {ahead rest : List Token} {e : Expr} {n : Nat} :
      ahead.head?.bind signOp? = none → Takes (.phrase .stepped) ahead e n rest →
      Takes (.phrase .signed) ahead e n rest
  | primary {ahead middle rest : List Token} {operand e : Expr} {n m : Nat} :
      Takes (.phrase .primary) ahead operand n middle →
      Takes (.steps operand n) middle e m rest → Takes (.phrase .stepped) ahead e m rest
  | stepsStop {ahead : List Token} {operand : Expr} {n : Nat} :
      ahead.head?.bind stepOp? = none → Takes (.steps operand n) ahead operand n ahead
  | stepsNext {token : Token} {op : UnaryOp} {ahead rest : List Token} {operand e : Expr}
      {n m : Nat} : stepOp? token = some op → Takes (.steps (.unary op operand) n) ahead e m rest →
      Takes (.steps operand n) (token :: ahead) e m rest
  | number {value : Nat} {rest : List Token} :
      Takes (.phrase .primary) (.number value :: rest) (.number value) 0 rest
  | text {content : String} {rest : List Token} :
      Takes (.phrase .primary) (.text content :: rest) (.text content) 0 rest
  | cell {address : String} {place : CellRef} {rest : List Token} :
      CellRef.parse address = .ok place →
      Takes (.phrase .primary) (.cell address :: rest) (.cell place.address) 0 rest
  | group {ahead rest : List Token} {e : Expr} {n : Nat} :
      Takes (.phrase (.tier .logical)) ahead e n (.symbol .closeParen :: rest) →
      Takes (.phrase .primary) (.symbol .openParen :: ahead) (.group e) (n + 1) rest
  | call {word : String} {function : Builtin} {ahead middle rest : List Token} {first e : Expr}
      {n m : Nat} : Builtin.ofName? word = some function →
      Takes (.phrase (.tier .logical)) ahead first n middle →
      Takes (.arguments function [first] n) middle e m rest →
      Takes (.phrase .primary) (.name word :: .symbol .openParen :: ahead) e m rest
  | argument {function : Builtin} {read : List Expr} {ahead middle rest : List Token}
      {argument e : Expr} {n m k : Nat} : Takes (.phrase (.tier .logical)) ahead argument m middle →
      Takes (.arguments function (read ++ [argument]) (max n m)) middle e k rest →
      Takes (.arguments function read n) (.symbol .comma :: ahead) e k rest
  | close {function : Builtin} {read : List Expr} {rest : List Token} {n : Nat} :
      function.accepts read.length = true →
      Takes (.arguments function read n) (.symbol .closeParen :: rest) (.call function read)
        (n + 1) rest

variable {rule : Rule} {phrase : Phrase} {goal : Goal} {ahead rest : List Token} {e : Expr}
  {n : Nat}

/-- **There is one way to read on.** -/
theorem Takes.unique (h : Takes goal ahead e n rest) : ∀ {e' : Expr} {n' : Nat}
    {rest' : List Token}, Takes goal ahead e' n' rest' → e = e' ∧ n = n' ∧ rest = rest' := by
  induction h with
  | tier _ _ ihleft ihchain =>
    intro _ _ _ h'
    cases h' with
    | tier hleft hchain =>
      obtain ⟨rfl, rfl, rfl⟩ := ihleft hleft
      exact ihchain hchain
  | chainStop hstop =>
    intro _ _ _ h'
    cases h' with
    | chainStop _ => exact ⟨rfl, rfl, rfl⟩
    | chainNext hop _ _ => exact absurd (hop.symm.trans hstop) (by simp)
  | chainNext hop _ _ ihright ihchain =>
    intro _ _ _ h'
    cases h' with
    | chainStop hstop => exact absurd (hop.symm.trans hstop) (by simp)
    | chainNext hop' hright hchain =>
      obtain rfl := Option.some.inj (hop.symm.trans hop')
      obtain ⟨rfl, rfl, rfl⟩ := ihright hright
      exact ihchain hchain
  | not _ ih =>
    intro _ _ _ h'
    cases h' with
    | not h' =>
      obtain ⟨rfl, rfl, rfl⟩ := ih h'
      exact ⟨rfl, rfl, rfl⟩
    | comparison hhead _ => exact absurd rfl hhead
  | comparison hhead _ ih =>
    intro _ _ _ h'
    cases h' with
    | not _ => exact absurd rfl hhead
    | comparison _ h' => exact ih h'
  | sign hop _ ih =>
    intro _ _ _ h'
    cases h' with
    | sign hop' h' =>
      obtain rfl := Option.some.inj (hop.symm.trans hop')
      obtain ⟨rfl, rfl, rfl⟩ := ih h'
      exact ⟨rfl, rfl, rfl⟩
    | stepped hstop _ => exact absurd (hop.symm.trans hstop) (by simp)
  | stepped hstop _ ih =>
    intro _ _ _ h'
    cases h' with
    | sign hop _ => exact absurd (hop.symm.trans hstop) (by simp)
    | stepped _ h' => exact ih h'
  | primary _ _ ihoperand ihsteps =>
    intro _ _ _ h'
    cases h' with
    | primary hoperand hsteps =>
      obtain ⟨rfl, rfl, rfl⟩ := ihoperand hoperand
      exact ihsteps hsteps
  | stepsStop hstop =>
    intro _ _ _ h'
    cases h' with
    | stepsStop _ => exact ⟨rfl, rfl, rfl⟩
    | stepsNext hop _ => exact absurd (hop.symm.trans hstop) (by simp)
  | stepsNext hop _ ih =>
    intro _ _ _ h'
    cases h' with
    | stepsStop hstop => exact absurd (hop.symm.trans hstop) (by simp)
    | stepsNext hop' h' =>
      obtain rfl := Option.some.inj (hop.symm.trans hop')
      exact ih h'
  | number | text =>
    intro _ _ _ h'
    cases h'
    exact ⟨rfl, rfl, rfl⟩
  | cell hparse =>
    intro _ _ _ h'
    cases h' with
    | cell hparse' =>
      obtain rfl := Except.ok.inj (hparse.symm.trans hparse')
      exact ⟨rfl, rfl, rfl⟩
  | group _ ih =>
    intro _ _ _ h'
    cases h' with
    | group h' =>
      obtain ⟨rfl, rfl, hrest⟩ := ih h'
      exact ⟨rfl, rfl, (List.cons.inj hrest).2⟩
  | call hname _ _ ihfirst ihrest =>
    intro _ _ _ h'
    cases h' with
    | call hname' hfirst hrest =>
      obtain rfl := Option.some.inj (hname.symm.trans hname')
      obtain ⟨rfl, rfl, rfl⟩ := ihfirst hfirst
      exact ihrest hrest
  | argument _ _ ihnext ihrest =>
    intro _ _ _ h'
    cases h' with
    | argument hnext hrest =>
      obtain ⟨rfl, rfl, rfl⟩ := ihnext hnext
      exact ihrest hrest
  | close _ =>
    intro _ _ _ h'
    cases h'
    exact ⟨rfl, rfl, rfl⟩

/-! ### What is taken is derived -/

theorem Builtin.ofName?_eq_some {word : String} {function : Builtin} :
    Builtin.ofName? word = some function ↔
      word.toList.map Char.toLower = function.name.toList := by
  constructor
  · intro h
    have hfound := List.find?_some h
    exact (of_decide_eq_true hfound).symm
  · intro h
    rw [Builtin.ofName?, h]
    cases function <;> decide

namespace Phrase
variable {phrases : List Phrase} {least : Nat}

theorem listed_append : listed (phrases ++ [phrase]) =
    listed phrases ++ .symbol .comma :: phrase.tokens := by
  simp [listed]

theorem deepest_append : deepest least (phrases ++ [phrase]) =
    max (deepest least phrases) phrase.nesting := by
  simp [deepest]

end Phrase

/-- What a goal takes, in terms of the grammar. -/
def Goal.Means : Goal → List Token → Expr → Nat → List Token → Prop
  | .phrase rule, ahead, e, n, rest => ∃ front, ahead = front ++ rest ∧ Derives rule ⟨front, e, n⟩
  | .chain tier left m, ahead, e, n, rest => ∀ before, Derives (.tier tier) ⟨before, left, m⟩ →
      ∃ front, ahead = front ++ rest ∧ Derives (.tier tier) ⟨before ++ front, e, n⟩
  | .steps operand m, ahead, e, n, rest => ∀ before, Derives .stepped ⟨before, operand, m⟩ →
      ∃ front, ahead = front ++ rest ∧ Derives .stepped ⟨before ++ front, e, n⟩
  | .arguments function read m, ahead, e, n, rest => ∀ (word : String) (first : Phrase)
      (more : List Phrase), Builtin.ofName? word = some function →
      Derives (.tier .logical) first → (∀ phrase ∈ more, Derives (.tier .logical) phrase) →
      read = first.expr :: more.map (·.expr) → m = Phrase.deepest first.nesting more →
      ∃ front, ahead = front ++ rest ∧ Derives .primary
        ⟨.name word :: .symbol .openParen :: first.tokens ++ (Phrase.listed more ++ front), e, n⟩

/-- **What is taken is derived.** -/
theorem Takes.means (h : Takes goal ahead e n rest) : goal.Means ahead e n rest := by
  induction h with
  | tier _ _ ihleft ihchain =>
    obtain ⟨before, rfl, hleft⟩ := ihleft
    obtain ⟨front, rfl, hchain⟩ := ihchain before (.operand hleft)
    exact ⟨before ++ front, (List.append_assoc _ _ _).symm, hchain⟩
  | chainStop _ => exact fun before hleft => ⟨[], rfl, (List.append_nil before).symm ▸ hleft⟩
  | @chainNext _ token _ _ _ _ _ _ _ _ _ _ hop _ _ ihright ihchain =>
    intro before hleft
    obtain ⟨right, rfl, hright⟩ := ihright
    obtain ⟨front, rfl, hchain⟩ := ihchain _ (.binary hleft (Tier.op?_eq_some.mp hop) hright)
    refine ⟨token :: right ++ front, by simp, ?_⟩
    simpa using hchain
  | not _ ih =>
    obtain ⟨front, rfl, h⟩ := ih
    exact ⟨_, rfl, .not h⟩
  | comparison _ _ ih =>
    obtain ⟨front, rfl, h⟩ := ih
    exact ⟨front, rfl, .comparison h⟩
  | sign hop _ ih =>
    obtain ⟨front, rfl, h⟩ := ih
    exact ⟨_, rfl, .sign (signOp?_eq_some.mp hop) h⟩
  | stepped _ _ ih =>
    obtain ⟨front, rfl, h⟩ := ih
    exact ⟨front, rfl, .stepped h⟩
  | primary _ _ ihoperand ihsteps =>
    obtain ⟨before, rfl, hoperand⟩ := ihoperand
    obtain ⟨front, rfl, hsteps⟩ := ihsteps before (.primary hoperand)
    exact ⟨before ++ front, (List.append_assoc _ _ _).symm, hsteps⟩
  | stepsStop _ => exact fun before h => ⟨[], rfl, (List.append_nil before).symm ▸ h⟩
  | @stepsNext token _ _ _ _ _ _ _ hop _ ih =>
    intro before hoperand
    obtain ⟨front, rfl, h⟩ := ih _ (.step hoperand (stepOp?_eq_some.mp hop))
    refine ⟨token :: front, rfl, ?_⟩
    simpa using h
  | number => exact ⟨[_], rfl, .number _⟩
  | text => exact ⟨[_], rfl, .text _⟩
  | cell hparse => exact ⟨[_], rfl, .cell hparse⟩
  | group _ ih =>
    obtain ⟨front, rfl, h⟩ := ih
    exact ⟨_, by simp, .group h⟩
  | call hname _ _ ihfirst ihrest =>
    obtain ⟨before, rfl, hfirst⟩ := ihfirst
    obtain ⟨front, rfl, h⟩ := ihrest _ _ [] hname hfirst nofun rfl rfl
    exact ⟨_, by simp [Phrase.listed], h⟩
  | @argument _ _ _ _ _ argument _ _ m _ _ _ ihnext ihrest =>
    rintro word first more hname hfirst hmore rfl rfl
    obtain ⟨next, rfl, hnext⟩ := ihnext
    obtain ⟨front, rfl, h⟩ := ihrest word first (more ++ [⟨next, argument, m⟩]) hname hfirst
      (fun phrase hmem => by
        rcases List.mem_append.mp hmem with hmem | hmem
        · exact hmore phrase hmem
        · exact List.mem_singleton.mp hmem ▸ hnext)
      (by simp) (by rw [Phrase.deepest_append])
    refine ⟨.symbol .comma :: next ++ front, by simp, ?_⟩
    rw [Phrase.listed_append] at h
    simpa using h
  | close haccepts =>
    rintro word first more hname hfirst hmore rfl rfl
    refine ⟨[.symbol .closeParen], rfl, .call (Builtin.ofName?_eq_some.mp hname) hfirst hmore ?_⟩
    simpa using haccepts

/-! ### What is derived is taken -/

/-- The tokens that go on with a tier. -/
def Tier.continuations (tier : Tier) : List Token :=
  tier.within.flatMap (fun inner => inner.operators.map Prod.fst) ++ steps.map Prod.fst

/-- The tokens that go on with a phrase of a rule when they stand behind it. -/
def Rule.continuations : Rule → List Token
  | .tier t => t.continuations
  | .negation => Tier.comparison.continuations
  | .signed | .stepped => steps.map Prod.fst
  | .primary => []

/-- A phrase of a rule goes no further. -/
def Rule.Ends (rule : Rule) (rest : List Token) : Prop :=
  ∀ token ∈ rest.head?, token ∉ rule.continuations

theorem Rule.ends_nil : rule.Ends [] := nofun

theorem Rule.ends_cons {token : Token} :
    rule.Ends (token :: rest) ↔ token ∉ rule.continuations := by
  simp [Rule.Ends]

namespace Tier
variable {tier : Tier} {token : Token} {op : BinaryOp}

theorem mem_continuations_of_operand (h : token ∈ tier.operand.continuations) :
    token ∈ tier.continuations := by
  have hall : ∀ token ∈ tier.operand.continuations, token ∈ tier.continuations := by
    cases tier <;> decide
  exact hall token h

theorem mem_continuations_of_op? (h : tier.op? token = some op) : token ∈ tier.continuations := by
  have hall : ∀ entry ∈ tier.operators, entry.1 ∈ tier.continuations := by cases tier <;> decide
  exact hall (token, op) (op?_eq_some.mp h)

/-- An operator ends the operand before it. -/
theorem ends_operand_of_mem (h : (token, op) ∈ tier.operators) :
    tier.operand.Ends (token :: rest) := by
  have hall : ∀ entry ∈ tier.operators, entry.1 ∉ tier.operand.continuations := by
    cases tier <;> decide
  exact Rule.ends_cons.mpr (hall (token, op) h)

theorem ends_operand (h : (Rule.tier tier).Ends rest) : tier.operand.Ends rest :=
  fun token htoken hmem => h token htoken (mem_continuations_of_operand hmem)

theorem head_op?_eq_none (h : (Rule.tier tier).Ends rest) : rest.head?.bind tier.op? = none := by
  refine Option.bind_eq_none_iff.mpr fun token htoken => ?_
  cases hop : tier.op? token with
  | none => rfl
  | some op => exact absurd (mem_continuations_of_op? hop) (h token htoken)

end Tier

theorem head_stepOp?_eq_none (h : Rule.stepped.Ends rest) : rest.head?.bind stepOp? = none := by
  refine Option.bind_eq_none_iff.mpr fun token htoken => ?_
  cases hop : stepOp? token with
  | none => rfl
  | some op =>
    exact absurd (List.mem_map_of_mem (stepOp?_eq_some.mp hop)) (h token htoken)

/-- The tokens that a phrase can begin with, as far as it matters. -/
def Rule.Begins : Rule → Token → Prop
  | .tier .logical, _ | .negation, _ => True
  | .stepped, token | .primary, token => signOp? token = none ∧ token ≠ .keyword .not
  | _, token => token ≠ .keyword .not

theorem Derives.begins (h : Derives rule phrase) :
    ∃ token rest, phrase.tokens = token :: rest ∧ rule.Begins token := by
  induction h with
  | @operand tier _ _ ih =>
    obtain ⟨token, rest, htokens, hbegins⟩ := ih
    refine ⟨token, rest, htokens, ?_⟩
    cases tier
    · trivial
    all_goals exact hbegins
  | binary _ _ _ ih _ =>
    obtain ⟨token, rest, htokens, hbegins⟩ := ih
    exact ⟨token, _, by rw [htokens]; rfl, hbegins⟩
  | not _ _ => exact ⟨_, _, rfl, trivial⟩
  | comparison _ ih =>
    obtain ⟨token, rest, htokens, -⟩ := ih
    exact ⟨token, rest, htokens, trivial⟩
  | sign hop _ _ =>
    have hall : ∀ entry ∈ signs, entry.1 ≠ .keyword .not := by decide
    exact ⟨_, _, rfl, hall _ hop⟩
  | stepped _ ih =>
    obtain ⟨token, rest, htokens, -, hbegins⟩ := ih
    exact ⟨token, rest, htokens, hbegins⟩
  | step _ _ ih =>
    obtain ⟨token, rest, htokens, hbegins⟩ := ih
    exact ⟨token, _, by rw [htokens]; rfl, hbegins⟩
  | primary _ ih => exact ih
  | number _ | text _ | cell _ | group _ _ | call _ _ _ _ _ _ =>
    exact ⟨_, _, rfl, rfl, by simp⟩

/-- How a phrase is taken when something comes behind it.  What begins with a phrase of the same
rule may go on behind it. -/
def Rule.Taken : Rule → Phrase → Prop
  | .tier t, phrase => ∀ {rest e n rest'}, t.operand.Ends rest →
      Takes (.chain t phrase.expr phrase.nesting) rest e n rest' →
      Takes (.phrase (.tier t)) (phrase.tokens ++ rest) e n rest'
  | .stepped, phrase => ∀ {rest e n rest'},
      Takes (.steps phrase.expr phrase.nesting) rest e n rest' →
      Takes (.phrase .stepped) (phrase.tokens ++ rest) e n rest'
  | rule, phrase => ∀ {rest}, rule.Ends rest →
      Takes (.phrase rule) (phrase.tokens ++ rest) phrase.expr phrase.nesting rest

theorem Rule.Taken.takes (h : rule.Taken phrase) (hends : rule.Ends rest) :
    Takes (.phrase rule) (phrase.tokens ++ rest) phrase.expr phrase.nesting rest := by
  cases rule with
  | tier tier => exact h (Tier.ends_operand hends) (.chainStop (Tier.head_op?_eq_none hends))
  | stepped => exact h (.stepsStop (head_stepOp?_eq_none hends))
  | negation | signed | primary => exact h hends

/-- An argument ends at the comma or the parenthesis behind it. -/
theorem ends_argument (more : List Phrase) (rest : List Token) :
    (Rule.tier .logical).Ends (Phrase.listed more ++ .symbol .closeParen :: rest) := by
  cases more with
  | nil => exact Rule.ends_cons.mpr (by decide)
  | cons _ _ => exact Rule.ends_cons.mpr (by decide)

theorem takes_arguments {function : Builtin} : ∀ {more : List Phrase} {read : List Expr} {m : Nat},
    (∀ phrase ∈ more, (Rule.tier .logical).Taken phrase) →
    function.accepts (read.length + more.length) = true →
    Takes (.arguments function read m) (Phrase.listed more ++ .symbol .closeParen :: rest)
      (.call function (read ++ more.map (·.expr))) (Phrase.deepest m more + 1) rest
  | [], read, m, _, haccepts => by
    rw [List.map_nil, List.append_nil]
    exact .close haccepts
  | next :: more, read, m, hmore, haccepts => by
    have htaken : (Rule.tier .logical).Taken next := hmore next List.mem_cons_self
    have hnext := htaken.takes (ends_argument more rest)
    have hcount : (read ++ [next.expr]).length + more.length =
        read.length + (next :: more).length := by
      simp only [List.length_append, List.length_cons, List.length_nil]
      omega
    have hrest := takes_arguments (m := max m next.nesting)
      (fun phrase hmem => hmore phrase (List.mem_cons_of_mem _ hmem)) (hcount ▸ haccepts)
    simpa [Phrase.listed, Phrase.deepest] using Takes.argument hnext hrest

/-- **What is derived is taken.** -/
theorem Derives.taken (h : Derives rule phrase) : rule.Taken phrase := by
  induction h with
  | operand _ ih => exact fun hends hchain => .tier (ih.takes hends) hchain
  | binary _ hop _ ihleft ihright =>
    intro rest e n rest' hends hchain
    have hright := ihright.takes hends
    have hmore := Takes.chainNext (Tier.op?_eq_some.mpr hop) hright hchain
    simpa using ihleft (Tier.ends_operand_of_mem hop) hmore
  | not _ ih => exact fun hends => .not (ih hends)
  | comparison h ih =>
    intro rest hends
    refine .comparison ?_ (ih.takes hends)
    obtain ⟨token, more, htokens, hbegins⟩ := h.begins
    have hother : token ≠ .keyword .not := hbegins
    rw [htokens]
    simpa using hother
  | sign hop _ ih => exact fun hends => .sign (signOp?_eq_some.mpr hop) (ih hends)
  | stepped h ih =>
    intro rest hends
    refine .stepped ?_ (ih.takes hends)
    obtain ⟨token, more, htokens, hbegins, -⟩ := h.begins
    rw [htokens]
    exact hbegins
  | step _ hop ih =>
    intro rest e n rest' hsteps
    simpa using ih (.stepsNext (stepOp?_eq_some.mpr hop) hsteps)
  | primary _ ih => exact fun hsteps => .primary (ih nofun) hsteps
  | number _ => exact fun _ => .number
  | text _ => exact fun _ => .text
  | cell hparse => exact fun _ => .cell hparse
  | group _ ih =>
    intro rest _
    have hends : (Rule.tier .logical).Ends (.symbol .closeParen :: rest) :=
      Rule.ends_cons.mpr (by decide)
    simpa using Takes.group (ih.takes hends)
  | @call word function first more hname _ _ haccepts ihfirst ihmore =>
    intro rest _
    have harguments : Takes (.arguments function [first.expr] first.nesting)
        (Phrase.listed more ++ .symbol .closeParen :: rest)
        (.call function ([first.expr] ++ more.map (·.expr)))
        (Phrase.deepest first.nesting more + 1) rest :=
      takes_arguments ihmore (by simpa [Nat.add_comm] using haccepts)
    have hcall := Takes.call (Builtin.ofName?_eq_some.mpr hname)
      (ihfirst.takes (ends_argument more rest)) harguments
    simpa using hcall

/-- A phrase with an end behind it is taken as it is. -/
theorem Derives.takes (h : Derives rule phrase) (hends : rule.Ends rest) :
    Takes (.phrase rule) (phrase.tokens ++ rest) phrase.expr phrase.nesting rest :=
  h.taken.takes hends

/-- **The grammar is unambiguous.**  By one rule some tokens can be read as one expression only,
with one nesting. -/
theorem Derives.unique {first second : Phrase} (hfirst : Derives rule first)
    (hsecond : Derives rule second) (h : first.tokens = second.tokens) : first = second := by
  have htakes := hfirst.takes Rule.ends_nil
  rw [h] at htakes
  obtain ⟨hexpr, hnesting, -⟩ := htakes.unique (hsecond.takes Rule.ends_nil)
  obtain ⟨_, _, _⟩ := first
  obtain ⟨_, _, _⟩ := second
  cases h
  cases hexpr
  cases hnesting
  rfl

end Gridcalc.Formula
