import Gridcalc.Proofs.Formula.Grammar
import Mathlib.Data.List.Basic

/-! # Reading follows the grammar

The readers of the grammar rules take what the grammar takes, as long as two limits are kept: so
many levels may be open around a token as there is room for, and no tree may grow higher than
`maxHeight`.  A reader that succeeds has taken its rule within the limits (`reader_follows`), and
what can be taken within the limits is read (`read_of_takes`).  Repetitions stop by themselves
before their rounds are over, because every round takes a token (`Takes.length`).

With the grammar being unambiguous, `parse` is thereby told from the grammar alone
(`parse_iff_derives`).
-/
namespace Gridcalc.Formula

theorem bind_eq_ok {ε α β : Type} {x : Except ε α} {f : α → Except ε β} {b : β}
    (h : x >>= f = .ok b) : ∃ a, x = .ok a ∧ f a = .ok b := by
  cases x with
  | error fault => cases h
  | ok a => exact ⟨a, rfl, h⟩

/-! ### Tokens and trees -/

/-- The tokens ahead without their offsets. -/
def Tokens.kinds (tokens : Tokens) : List Token := tokens.ahead.map (·.token)

/-- An expression with its height. -/
def Expr.tree (e : Expr) : Tree := ⟨e, e.height⟩

/-- A tree tells its height and is no higher than allowed. -/
structure Tree.Sized (tree : Tree) : Prop where
  height : tree.height = tree.expr.height
  limit : tree.height ≤ maxHeight

theorem sized_leaf {e : Expr} (h : e.height = 1) : (Tree.leaf e).Sized :=
  ⟨h.symm, (by decide : 1 ≤ maxHeight)⟩

namespace Tokens
variable {tokens : Tokens} {token : Token} {more : List Token}

theorem length_kinds : tokens.kinds.length = tokens.ahead.length := List.length_map _

theorem kinds_advance : tokens.advance.kinds = tokens.kinds.tail := List.map_tail

theorem next?_eq : tokens.next? = tokens.kinds.head? := List.head?_map.symm

theorem kinds_of_next? (h : tokens.next? = some token) :
    tokens.kinds = token :: tokens.advance.kinds := by
  rw [next?_eq] at h
  obtain ⟨more, hmore⟩ := List.head?_eq_some_iff.mp h
  rw [kinds_advance, hmore]
  rfl

theorem next?_of_kinds (h : tokens.kinds = token :: more) :
    tokens.next? = some token ∧ tokens.advance.kinds = more := by
  rw [next?_eq, kinds_advance, h]
  exact ⟨rfl, rfl⟩

theorem exists_of_bind_next? {α : Type} {f : Token → Option α} {a : α}
    (h : tokens.next?.bind f = some a) :
    ∃ token, tokens.kinds = token :: tokens.advance.kinds ∧ f token = some a := by
  obtain ⟨token, hnext, ha⟩ := Option.bind_eq_some_iff.mp h
  exact ⟨token, kinds_of_next? hnext, ha⟩

/-- A tree that was grown is no higher than allowed. -/
theorem sized_of_grow {e : Expr} {height : Nat} {node : Tree}
    (h : tokens.grow e height = .ok node) (he : e.height = height + 1) :
    node.expr = e ∧ node.Sized := by
  unfold grow at h
  split at h
  · cases h
  · rename_i hlower
    obtain rfl := Except.ok.inj h
    exact ⟨rfl, he.symm, Nat.lt_of_not_le hlower⟩

theorem grow_of_le {e : Expr} {height : Nat} (he : e.height = height + 1)
    (hlimit : e.height ≤ maxHeight) : tokens.grow e height = .ok e.tree := by
  rw [grow, if_neg (by omega), Expr.tree, he]

theorem expect_eq_ok {wanted : Symbol} {rest : Tokens} :
    tokens.expect wanted = .ok rest ↔
      tokens.next? = some (.symbol wanted) ∧ rest = tokens.advance := by
  unfold expect
  split
  · rename_i h
    simp [h, eq_comm]
  · rename_i h
    simp [h, fail]

end Tokens

/-- The height of a call counts its arguments from the left. -/
theorem foldl_height : ∀ {trees : List Tree} {least : Nat},
    (∀ tree ∈ trees, tree.height = tree.expr.height) →
    trees.foldl (fun height tree => max height tree.height) least =
      max least (Expr.heightAll (trees.map (·.expr)))
  | [], least, _ => (Nat.max_zero least).symm
  | tree :: rest, least, h => by
    rw [List.foldl_cons, foldl_height fun other hmem => h other (List.mem_cons_of_mem _ hmem),
      h tree List.mem_cons_self, List.map_cons, Expr.heightAll]
    exact Nat.max_assoc _ _ _

theorem height_le_heightAll {e : Expr} : ∀ {es : List Expr}, e ∈ es → e.height ≤ Expr.heightAll es
  | other :: rest, h => by
    rw [Expr.heightAll]
    rcases List.mem_cons.mp h with rfl | h
    · exact Nat.le_max_left _ _
    · exact Nat.le_trans (height_le_heightAll h) (Nat.le_max_right _ _)

/-! ### What taking adds up to -/

section Takes
variable {goal : Goal} {ahead rest : List Token} {e : Expr} {n : Nat}

/-- How many tokens a goal takes at least. -/
def Goal.least : Goal → Nat
  | .phrase _ | .arguments _ _ _ => 1
  | .chain _ _ _ | .steps _ _ => 0

theorem Takes.length (h : Takes goal ahead e n rest) : rest.length + goal.least ≤ ahead.length := by
  induction h with
  | tier _ _ ihleft ihchain | primary _ _ ihleft ihchain =>
    simp only [Goal.least] at *
    omega
  | call _ _ _ ihfirst ihrest | argument _ _ ihfirst ihrest =>
    simp only [Goal.least, List.length_cons] at *
    omega
  | chainNext _ _ _ ihright ihchain =>
    simp only [Goal.least, List.length_cons] at *
    omega
  | not _ ih | sign _ _ ih | stepsNext _ _ ih | group _ ih =>
    simp only [Goal.least, List.length_cons] at *
    omega
  | comparison _ _ ih | stepped _ _ ih => exact ih
  | chainStop _ | stepsStop _ | number | text | cell _ | close _ => simp [Goal.least]

/-- What was read before is part of the result, in height and in nesting. -/
def Goal.Within : Goal → Expr → Nat → Prop
  | .phrase _, _, _ => True
  | .chain _ left m, e, n | .steps left m, e, n => left.height ≤ e.height ∧ m ≤ n
  | .arguments _ read m, e, n => (∀ argument ∈ read, argument.height < e.height) ∧ m < n

theorem Takes.within (h : Takes goal ahead e n rest) : goal.Within e n := by
  induction h with
  | chainNext _ _ _ _ ihchain =>
    obtain ⟨hheight, hnesting⟩ := ihchain
    rw [Expr.height] at hheight
    exact ⟨Nat.le_trans (Nat.le_max_left _ _) (Nat.le_of_succ_le hheight),
      Nat.le_trans (Nat.le_max_left _ _) hnesting⟩
  | stepsNext _ _ ih =>
    obtain ⟨hheight, hnesting⟩ := ih
    simp only [Expr.height] at hheight
    exact ⟨by omega, hnesting⟩
  | argument _ _ _ ihrest =>
    obtain ⟨hheight, hnesting⟩ := ihrest
    exact ⟨fun other hmem => hheight other (List.mem_append_left _ hmem), by omega⟩
  | close _ =>
    refine ⟨fun argument hmem => ?_, Nat.lt_succ_self _⟩
    rw [Expr.height]
    exact Nat.lt_succ_of_le (height_le_heightAll hmem)
  | chainStop _ | stepsStop _ => exact ⟨Nat.le_refl _, Nat.le_refl _⟩
  | _ => trivial

end Takes

/-! ### Readers by rule -/

/-- The reader of a rule. -/
def Rule.reader (size : Nat) (deeper : Option Levels) : Rule → Reader Tree
  | .tier .logical => Formula.logical size deeper
  | .tier .comparison => Formula.comparison size deeper
  | .tier .additive => Formula.additive size deeper
  | .tier .multiplicative => Formula.multiplicative size deeper
  | .tier .power => Formula.power size deeper
  | .negation => Formula.negation size deeper
  | .signed => Formula.signed size deeper
  | .stepped => Formula.stepped size deeper
  | .primary => Formula.primary size deeper

variable {size room : Nat} {rule : Rule} {tier : Tier} {tokens rest : Tokens} {tree : Tree}

theorem reader_tier (deeper : Option Levels) : (Rule.tier tier).reader size deeper =
    chain tier.op? (tier.operand.reader size deeper) size := by
  cases tier <;> rfl

/-- The readers one level deeper. -/
def innerLevels (size room : Nat) : Levels where
  logical := (Rule.tier .logical).reader size (levels? size room)
  negation := Rule.negation.reader size (levels? size room)
  signed := Rule.signed.reader size (levels? size room)

theorem descend_eq_ok {levels : Levels} (h : descend (levels? size room) tokens = .ok levels) :
    ∃ inner, room = inner + 1 ∧ levels = innerLevels size inner := by
  cases room with
  | zero => cases h
  | succ inner => exact ⟨inner, rfl, (Except.ok.inj h).symm⟩

/-! ### What is read is taken -/

/-- **A tree and the rest of the tokens are what a goal takes,** within the limits. -/
def Goal.Gives (goal : Goal) (room : Nat) (tokens : Tokens) (tree : Tree) (rest : Tokens) : Prop :=
  tree.Sized ∧ ∃ n ≤ room, Takes goal tokens.kinds tree.expr n rest.kinds

/-- What a reader returns is what its rule takes. -/
def Reader.Follows (read : Reader Tree) (size room : Nat) (rule : Rule) : Prop :=
  ∀ tokens tree rest, tokens.ahead.length ≤ size → read tokens = .ok (tree, rest) →
    (Goal.phrase rule).Gives room tokens tree rest

theorem Tokens.kinds_eq_nil (h : tokens.ahead.length ≤ 0) : tokens.kinds = [] := by
  rw [← List.length_eq_zero_iff, Tokens.length_kinds]
  omega

theorem Tokens.length_advance {token : Token} (h : tokens.kinds = token :: tokens.advance.kinds) :
    tokens.ahead.length = tokens.advance.ahead.length + 1 := by
  rw [← Tokens.length_kinds, ← Tokens.length_kinds, h]
  rfl

/-- What is left behind a phrase is shorter. -/
theorem Takes.length_ahead {e : Expr} {n : Nat}
    (h : Takes (.phrase rule) tokens.kinds e n rest.kinds) :
    rest.ahead.length + 1 ≤ tokens.ahead.length := by
  rw [← Tokens.length_kinds, ← Tokens.length_kinds]
  exact h.length

theorem chainFrom_gives {operand : Reader Tree} (hop : operand.Follows size room tier.operand) :
    ∀ (rounds : Nat) {left : Tree} {m : Nat} {tokens : Tokens}, left.Sized → m ≤ room →
      tokens.ahead.length ≤ rounds → rounds ≤ size →
      chainFrom tier.op? operand rounds left tokens = .ok (tree, rest) →
      (Goal.chain tier left.expr m).Gives room tokens tree rest
  | 0, left, m, tokens, hleft, hroom, hlength, _, h => by
    obtain ⟨rfl, rfl⟩ := Prod.mk.inj (Except.ok.inj h)
    exact ⟨hleft, m, hroom, .chainStop (by rw [Tokens.kinds_eq_nil hlength]; rfl)⟩
  | rounds + 1, left, m, tokens, hleft, hroom, hlength, hsize, h => by
    rw [chainFrom] at h
    split at h
    · rename_i hstop
      obtain ⟨rfl, rfl⟩ := Prod.mk.inj (Except.ok.inj h)
      exact ⟨hleft, m, hroom, .chainStop (Tokens.next?_eq ▸ hstop)⟩
    · rename_i op hnext
      obtain ⟨token, hkinds, hop?⟩ := Tokens.exists_of_bind_next? hnext
      have hadvance := Tokens.length_advance hkinds
      obtain ⟨⟨right, middle⟩, hread, h⟩ := bind_eq_ok h
      obtain ⟨node, hnode, h⟩ := bind_eq_ok h
      obtain ⟨hright, k, hk, htakes⟩ := hop tokens.advance right middle (by omega) hread
      have htaken := htakes.length_ahead
      obtain ⟨hexpr, hsized⟩ := Tokens.sized_of_grow hnode
        (by rw [Expr.height, hleft.height, hright.height])
      obtain ⟨htree, n, hn, hchain⟩ := chainFrom_gives hop rounds hsized
        (Nat.max_le.mpr ⟨hroom, hk⟩) (by omega) (by omega) h
      rw [hexpr] at hchain
      exact ⟨htree, n, hn, hkinds ▸ .chainNext hop? htakes hchain⟩

theorem chain_follows {operand : Reader Tree} (hop : operand.Follows size room tier.operand) :
    (chain tier.op? operand size).Follows size room (.tier tier) := by
  intro tokens tree rest hlength h
  obtain ⟨⟨left, middle⟩, hread, h⟩ := bind_eq_ok h
  obtain ⟨hleft, k, hk, htakes⟩ := hop tokens left middle hlength hread
  have htaken := htakes.length_ahead
  obtain ⟨htree, n, hn, hchain⟩ :=
    chainFrom_gives hop size hleft hk (by omega) (Nat.le_refl size) h
  exact ⟨htree, n, hn, .tier htakes hchain⟩

/-- A tier is followed when its operand is. -/
theorem tier_follows
    (hop : (tier.operand.reader size (levels? size room)).Follows size room tier.operand) :
    ((Rule.tier tier).reader size (levels? size room)).Follows size room (.tier tier) := by
  rw [reader_tier]
  exact chain_follows hop

theorem stepsFrom_gives : ∀ (rounds : Nat) {operand : Tree} {m : Nat} {tokens : Tokens},
    operand.Sized → m ≤ room → tokens.ahead.length ≤ rounds →
    stepsFrom rounds operand tokens = .ok (tree, rest) →
    (Goal.steps operand.expr m).Gives room tokens tree rest
  | 0, operand, m, tokens, hoperand, hroom, hlength, h => by
    obtain ⟨rfl, rfl⟩ := Prod.mk.inj (Except.ok.inj h)
    exact ⟨hoperand, m, hroom, .stepsStop (by rw [Tokens.kinds_eq_nil hlength]; rfl)⟩
  | rounds + 1, operand, m, tokens, hoperand, hroom, hlength, h => by
    rw [stepsFrom] at h
    split at h
    · rename_i hstop
      obtain ⟨rfl, rfl⟩ := Prod.mk.inj (Except.ok.inj h)
      exact ⟨hoperand, m, hroom, .stepsStop (Tokens.next?_eq ▸ hstop)⟩
    · rename_i op hnext
      obtain ⟨token, hkinds, hop?⟩ := Tokens.exists_of_bind_next? hnext
      have hadvance := Tokens.length_advance hkinds
      obtain ⟨node, hnode, h⟩ := bind_eq_ok h
      obtain ⟨hexpr, hsized⟩ := Tokens.sized_of_grow hnode (by rw [Expr.height, hoperand.height])
      obtain ⟨htree, n, hn, hsteps⟩ := stepsFrom_gives rounds hsized hroom (by omega) h
      rw [hexpr] at hsteps
      exact ⟨htree, n, hn, hkinds ▸ .stepsNext hop? hsteps⟩

/-- The arguments of a call and the parenthesis behind them. -/
theorem argumentsFrom_gives {function : Builtin} {argument : Reader Tree}
    (harg : argument.Follows size room (.tier .logical)) :
    ∀ (rounds : Nat) {read trees : List Tree} {m : Nat} {tokens : Tokens} {more : List Token},
      (∀ tree ∈ read, tree.Sized) → m ≤ room → tokens.ahead.length ≤ rounds → rounds ≤ size →
      argumentsFrom argument rounds read tokens = .ok (trees, rest) →
      rest.kinds = .symbol .closeParen :: more → function.accepts trees.length = true →
      (∀ tree ∈ trees, tree.Sized) ∧ ∃ n ≤ room, Takes
        (.arguments function (read.reverse.map (·.expr)) m) tokens.kinds
        (.call function (trees.map (·.expr))) (n + 1) more
  | 0, read, trees, m, tokens, more, _, _, hlength, _, h, hclose, _ => by
    obtain ⟨rfl, rfl⟩ := Prod.mk.inj (Except.ok.inj h)
    rw [Tokens.kinds_eq_nil hlength] at hclose
    cases hclose
  | rounds + 1, read, trees, m, tokens, more, hread, hroom, hlength, hsize, h, hclose,
      haccepts => by
    rw [argumentsFrom] at h
    split at h
    · rename_i hcomma
      have hkinds := Tokens.kinds_of_next? hcomma
      have hadvance := Tokens.length_advance hkinds
      obtain ⟨⟨next, middle⟩, hnext, h⟩ := bind_eq_ok h
      obtain ⟨hsized, k, hk, htakes⟩ := harg tokens.advance next middle (by omega) hnext
      have htaken := htakes.length_ahead
      have hall : ∀ tree ∈ next :: read, tree.Sized := by
        intro tree hmem
        rcases List.mem_cons.mp hmem with rfl | hmem
        · exact hsized
        · exact hread tree hmem
      obtain ⟨htrees, n, hn, hrest⟩ := argumentsFrom_gives harg rounds hall
        (Nat.max_le.mpr ⟨hroom, hk⟩) (by omega) (by omega) h hclose haccepts
      rw [List.reverse_cons, List.map_append] at hrest
      exact ⟨htrees, n, hn, hkinds ▸ .argument htakes hrest⟩
    · obtain ⟨rfl, rfl⟩ := Prod.mk.inj (Except.ok.inj h)
      refine ⟨fun tree hmem => hread tree (List.mem_reverse.mp hmem), m, hroom, ?_⟩
      rw [hclose]
      exact .close (by rwa [List.length_map])

/-- A node over an operand that was read. -/
theorem unary_gives {read : Reader Tree} {op : UnaryOp} (hread : read.Follows size room rule)
    (hlength : tokens.ahead.length ≤ size)
    (h : (do
      let (operand, rest) ← read tokens
      let node ← rest.grow (.unary op operand.expr) operand.height
      return (node, rest)) = Except.ok (tree, rest)) :
    ∃ e, tree.expr = .unary op e ∧ tree.Sized ∧
      ∃ n ≤ room, Takes (.phrase rule) tokens.kinds e n rest.kinds := by
  obtain ⟨⟨operand, behind⟩, hoperand, h⟩ := bind_eq_ok h
  obtain ⟨node, hnode, h⟩ := bind_eq_ok h
  obtain ⟨rfl, rfl⟩ := Prod.mk.inj (Except.ok.inj h)
  obtain ⟨hsized, n, hn, htakes⟩ := hread tokens operand behind hlength hoperand
  obtain ⟨hexpr, hnode⟩ := Tokens.sized_of_grow hnode (by rw [Expr.height, hsized.height])
  exact ⟨operand.expr, hexpr, hnode, n, hn, htakes⟩

section Depth
variable (hdeep : ∀ inner, room = inner + 1 → ∀ rule : Rule,
  (rule.reader size (levels? size inner)).Follows size inner rule)
include hdeep

theorem call_gives {name : String} (hlength : tokens.ahead.length ≤ size)
    (hname : tokens.next? = some (.name name))
    (h : call size (levels? size room) name tokens = .ok (tree, rest)) :
    (Goal.phrase .primary).Gives room tokens tree rest := by
  have hkinds := Tokens.kinds_of_next? hname
  have hadvance := Tokens.length_advance hkinds
  unfold call at h
  simp only at h
  split at h
  · rename_i hopen
    have hbracket := Tokens.kinds_of_next? hopen
    have hinside := Tokens.length_advance hbracket
    split at h
    · cases h
    · rename_i function hfunction
      obtain ⟨levels, hlevels, h⟩ := bind_eq_ok h
      obtain ⟨inner, rfl, rfl⟩ := descend_eq_ok hlevels
      obtain ⟨⟨first, middle⟩, hfirst, h⟩ := bind_eq_ok h
      obtain ⟨⟨trees, close⟩, htrees, h⟩ := bind_eq_ok h
      obtain ⟨behind, hclose, h⟩ := bind_eq_ok h
      obtain ⟨hclosed, rfl⟩ := Tokens.expect_eq_ok.mp hclose
      have hlogical := hdeep inner rfl (.tier .logical)
      obtain ⟨hsized, k, hk, htakes⟩ := hlogical _ first middle (by omega) hfirst
      have hmiddle : middle.ahead.length ≤ size := by
        have htaken := htakes.length_ahead
        omega
      simp only at h
      split at h
      · rename_i haccepts
        obtain ⟨node, hnode, h⟩ := bind_eq_ok h
        obtain ⟨rfl, rfl⟩ := Prod.mk.inj (Except.ok.inj h)
        obtain ⟨hall, n, hn, harguments⟩ := argumentsFrom_gives hlogical size
          (fun tree hmem => List.mem_singleton.mp hmem ▸ hsized) hk hmiddle (Nat.le_refl size)
          htrees (Tokens.kinds_of_next? hclosed) haccepts
        obtain ⟨hexpr, hnode⟩ := Tokens.sized_of_grow hnode (by
          rw [Expr.height, foldl_height fun tree hmem => (hall tree hmem).height, Nat.zero_max])
        refine ⟨hnode, n + 1, Nat.succ_le_succ hn, ?_⟩
        rw [hexpr, hkinds, hbracket]
        exact .call hfunction htakes harguments
      · cases h
  · cases h

theorem primary_follows : (Rule.primary.reader size (levels? size room)).Follows size room
    .primary := by
  intro tokens tree rest hlength h
  simp only [Rule.reader, primary] at h
  split at h
  · rename_i value hnext
    obtain ⟨rfl, rfl⟩ := Prod.mk.inj (Except.ok.inj h)
    exact ⟨sized_leaf rfl, 0, Nat.zero_le _, Tokens.kinds_of_next? hnext ▸ .number⟩
  · rename_i content hnext
    obtain ⟨rfl, rfl⟩ := Prod.mk.inj (Except.ok.inj h)
    exact ⟨sized_leaf rfl, 0, Nat.zero_le _, Tokens.kinds_of_next? hnext ▸ .text⟩
  · rename_i address hnext
    split at h
    · rename_i canonical hcanonical
      obtain ⟨rfl, rfl⟩ := Prod.mk.inj (Except.ok.inj h)
      refine ⟨sized_leaf rfl, 0, Nat.zero_le _, Tokens.kinds_of_next? hnext ▸ ?_⟩
      rw [CellRef.canonical] at hcanonical
      cases hparse : CellRef.parse address with
      | error fault =>
        rw [hparse] at hcanonical
        cases hcanonical
      | ok place =>
        rw [hparse] at hcanonical
        obtain rfl := Except.ok.inj hcanonical
        exact .cell hparse
    · cases h
  · rename_i name hnext
    exact call_gives hdeep hlength hnext h
  · rename_i hnext
    have hkinds := Tokens.kinds_of_next? hnext
    have hadvance := Tokens.length_advance hkinds
    obtain ⟨levels, hlevels, h⟩ := bind_eq_ok h
    obtain ⟨inner, rfl, rfl⟩ := descend_eq_ok hlevels
    obtain ⟨⟨content, close⟩, hcontent, h⟩ := bind_eq_ok h
    obtain ⟨behind, hclose, h⟩ := bind_eq_ok h
    obtain ⟨hclosed, rfl⟩ := Tokens.expect_eq_ok.mp hclose
    obtain ⟨node, hnode, h⟩ := bind_eq_ok h
    obtain ⟨rfl, rfl⟩ := Prod.mk.inj (Except.ok.inj h)
    obtain ⟨hsized, n, hn, htakes⟩ :=
      hdeep inner rfl (.tier .logical) tokens.advance content close (by omega) hcontent
    obtain ⟨hexpr, hnode⟩ := Tokens.sized_of_grow hnode (by rw [Expr.height, hsized.height])
    refine ⟨hnode, n + 1, Nat.succ_le_succ hn, ?_⟩
    rw [hexpr, hkinds]
    exact .group (Tokens.kinds_of_next? hclosed ▸ htakes)
  · cases h
  · cases h

theorem stepped_follows : (Rule.stepped.reader size (levels? size room)).Follows size room
    .stepped := by
  intro tokens tree rest hlength h
  obtain ⟨⟨operand, middle⟩, hoperand, h⟩ := bind_eq_ok h
  obtain ⟨hsized, k, hk, htakes⟩ := primary_follows hdeep tokens operand middle hlength hoperand
  have htaken := htakes.length_ahead
  obtain ⟨htree, n, hn, hsteps⟩ := stepsFrom_gives size hsized hk (by omega) h
  exact ⟨htree, n, hn, .primary htakes hsteps⟩

theorem signed_follows : (Rule.signed.reader size (levels? size room)).Follows size room
    .signed := by
  intro tokens tree rest hlength h
  simp only [Rule.reader, signed] at h
  split at h
  · rename_i op hnext
    obtain ⟨token, hkinds, hop⟩ := Tokens.exists_of_bind_next? hnext
    have hadvance := Tokens.length_advance hkinds
    obtain ⟨levels, hlevels, h⟩ := bind_eq_ok h
    obtain ⟨inner, rfl, rfl⟩ := descend_eq_ok hlevels
    obtain ⟨operand, hexpr, hsized, n, hn, htakes⟩ :=
      unary_gives (hdeep inner rfl .signed) (by omega) h
    refine ⟨hsized, n + 1, Nat.succ_le_succ hn, ?_⟩
    rw [hexpr, hkinds]
    exact .sign hop htakes
  · rename_i hstop
    obtain ⟨hsized, n, hn, htakes⟩ := stepped_follows hdeep tokens tree rest hlength h
    exact ⟨hsized, n, hn, .stepped (Tokens.next?_eq ▸ hstop) htakes⟩

theorem negation_follows (hcomparison : ((Rule.tier .comparison).reader size
      (levels? size room)).Follows size room (.tier .comparison)) :
    (Rule.negation.reader size (levels? size room)).Follows size room .negation := by
  intro tokens tree rest hlength h
  simp only [Rule.reader, negation] at h
  split at h
  · rename_i hnext
    have hkinds := Tokens.kinds_of_next? hnext
    have hadvance := Tokens.length_advance hkinds
    obtain ⟨levels, hlevels, h⟩ := bind_eq_ok h
    obtain ⟨inner, rfl, rfl⟩ := descend_eq_ok hlevels
    obtain ⟨operand, hexpr, hsized, n, hn, htakes⟩ :=
      unary_gives (hdeep inner rfl .negation) (by omega) h
    refine ⟨hsized, n + 1, Nat.succ_le_succ hn, ?_⟩
    rw [hexpr, hkinds]
    exact .not htakes
  · rename_i hstop
    obtain ⟨hsized, n, hn, htakes⟩ := hcomparison tokens tree rest hlength h
    exact ⟨hsized, n, hn, .comparison (Tokens.next?_eq ▸ hstop) htakes⟩

/-- The readers of one depth follow their rules when those one level deeper do. -/
theorem rule_follows (rule : Rule) :
    (rule.reader size (levels? size room)).Follows size room rule := by
  have hpower : ((Rule.tier .power).reader size (levels? size room)).Follows size room
      (.tier .power) := tier_follows (signed_follows hdeep)
  have hmultiplicative : ((Rule.tier .multiplicative).reader size (levels? size room)).Follows size
      room (.tier .multiplicative) := tier_follows hpower
  have hadditive : ((Rule.tier .additive).reader size (levels? size room)).Follows size room
      (.tier .additive) := tier_follows hmultiplicative
  have hcomparison : ((Rule.tier .comparison).reader size (levels? size room)).Follows size room
      (.tier .comparison) := tier_follows hadditive
  have hnegation := negation_follows hdeep hcomparison
  cases rule with
  | tier tier =>
    cases tier with
    | logical => exact tier_follows hnegation
    | comparison => exact hcomparison
    | additive => exact hadditive
    | multiplicative => exact hmultiplicative
    | power => exact hpower
  | negation => exact hnegation
  | signed => exact signed_follows hdeep
  | stepped => exact stepped_follows hdeep
  | primary => exact primary_follows hdeep

end Depth

/-- **What is read is taken,** by the reader of any rule at any depth. -/
theorem reader_follows (size room : Nat) : ∀ rule : Rule,
    (rule.reader size (levels? size room)).Follows size room rule := by
  induction room with
  | zero => exact rule_follows nofun
  | succ room ih =>
    refine rule_follows fun inner hinner => ?_
    obtain rfl := Nat.succ.inj hinner
    exact ih

/-! ### What is taken is read -/

/-- How a goal that can be taken within the limits is read. -/
def Goal.Read (size : Nat) : Goal → List Token → Expr → Nat → List Token → Prop
  | .phrase rule, ahead, e, n, behind => ∀ {room : Nat} {tokens : Tokens}, tokens.kinds = ahead →
      tokens.ahead.length ≤ size → n ≤ room → e.height ≤ maxHeight →
      ∃ rest : Tokens, rest.kinds = behind ∧
        rule.reader size (levels? size room) tokens = .ok (e.tree, rest)
  | .chain tier left _, ahead, e, n, behind => ∀ {room rounds : Nat} {tokens : Tokens},
      tokens.kinds = ahead → tokens.ahead.length ≤ rounds → rounds ≤ size → n ≤ room →
      e.height ≤ maxHeight → ∃ rest : Tokens, rest.kinds = behind ∧
        chainFrom tier.op? (tier.operand.reader size (levels? size room)) rounds left.tree tokens =
          .ok (e.tree, rest)
  | .steps operand _, ahead, e, _, behind => ∀ {rounds : Nat} {tokens : Tokens},
      tokens.kinds = ahead → tokens.ahead.length ≤ rounds → e.height ≤ maxHeight →
      ∃ rest : Tokens, rest.kinds = behind ∧
        stepsFrom rounds operand.tree tokens = .ok (e.tree, rest)
  | .arguments function read _, ahead, e, n, behind => ∀ {room rounds : Nat} {tokens : Tokens},
      tokens.kinds = ahead → tokens.ahead.length ≤ rounds → rounds ≤ size → n ≤ room + 1 →
      e.height ≤ maxHeight → ∃ (args : List Expr) (close : Tokens), e = .call function args ∧
        function.accepts args.length = true ∧ close.kinds = .symbol .closeParen :: behind ∧
        argumentsFrom ((Rule.tier .logical).reader size (levels? size room)) rounds
          (read.map Expr.tree).reverse tokens = .ok (args.map Expr.tree, close)

theorem chainFrom_stop {op? : Token → Option BinaryOp} {operand : Reader Tree} {left : Tree}
    {rounds : Nat} (hstop : tokens.kinds.head?.bind op? = none) :
    chainFrom op? operand rounds left tokens = .ok (left, tokens) := by
  cases rounds with
  | zero => rfl
  | succ rounds => rw [chainFrom, Tokens.next?_eq, hstop]

/-- One more operand of a chain. -/
theorem chainFrom_next {op? : Token → Option BinaryOp} {operand : Reader Tree} {token : Token}
    {op : BinaryOp} {left right : Expr} {middle : Tokens} {rounds : Nat}
    (hnext : tokens.next? = some token) (hop : op? token = some op)
    (hright : operand tokens.advance = .ok (right.tree, middle))
    (hlimit : (Expr.binary op left right).height ≤ maxHeight) :
    chainFrom op? operand (rounds + 1) left.tree tokens =
      chainFrom op? operand rounds (Expr.binary op left right).tree middle := by
  have hnode : middle.grow (.binary op left right) (max left.height right.height) =
      .ok (Expr.binary op left right).tree := Tokens.grow_of_le (by rw [Expr.height]) hlimit
  rw [chainFrom, hnext]
  simp only [Option.bind_some, hop, hright]
  show (middle.grow (.binary op left right) (max left.height right.height) >>= _) = _
  rw [hnode]
  rfl

theorem stepsFrom_stop {operand : Tree} {rounds : Nat}
    (hstop : tokens.kinds.head?.bind stepOp? = none) :
    stepsFrom rounds operand tokens = .ok (operand, tokens) := by
  cases rounds with
  | zero => rfl
  | succ rounds => rw [stepsFrom, Tokens.next?_eq, hstop]

/-- One more step behind an operand. -/
theorem stepsFrom_next {token : Token} {op : UnaryOp} {operand : Expr} {rounds : Nat}
    (hnext : tokens.next? = some token) (hop : stepOp? token = some op)
    (hlimit : (Expr.unary op operand).height ≤ maxHeight) :
    stepsFrom (rounds + 1) operand.tree tokens =
      stepsFrom rounds (Expr.unary op operand).tree tokens.advance := by
  have hnode : tokens.advance.grow (.unary op operand) operand.height =
      .ok (Expr.unary op operand).tree := Tokens.grow_of_le (by rw [Expr.height]) hlimit
  rw [stepsFrom, hnext]
  simp only [Option.bind_some, hop]
  show (tokens.advance.grow (.unary op operand) operand.height >>= _) = _
  rw [hnode]
  rfl

/-- A node over an operand that was read. -/
theorem read_unary {read : Reader Tree} {op : UnaryOp} {e : Expr}
    (hread : read tokens = .ok (e.tree, rest)) (hlimit : (Expr.unary op e).height ≤ maxHeight) :
    (do
      let (operand, rest) ← read tokens
      let node ← rest.grow (.unary op operand.expr) operand.height
      return (node, rest)) = Except.ok ((Expr.unary op e).tree, rest) := by
  rw [hread]
  show (rest.grow (.unary op e) e.height >>= fun node => pure (node, rest)) = _
  rw [Tokens.grow_of_le (by rw [Expr.height]) hlimit]
  rfl

theorem map_tree_expr (es : List Expr) : (es.map Expr.tree).map (·.expr) = es := by
  rw [List.map_map]
  exact List.map_id es

/-- Parentheses around an expression that was read. -/
theorem read_group {read : Reader Tree} {e : Expr} (hread : read tokens = .ok (e.tree, rest))
    (hclose : rest.next? = some (.symbol .closeParen))
    (hlimit : (Expr.group e).height ≤ maxHeight) :
    (do
      let (inner, rest) ← read tokens
      let rest ← rest.expect .closeParen
      let node ← rest.grow (.group inner.expr) inner.height
      return (node, rest)) = Except.ok ((Expr.group e).tree, rest.advance) := by
  rw [hread]
  show (rest.expect .closeParen >>= fun rest => rest.grow (.group e) e.height >>= fun node =>
    pure (node, rest)) = _
  rw [Tokens.expect_eq_ok.mpr ⟨hclose, rfl⟩]
  show (rest.advance.grow (.group e) e.height >>= fun node => pure (node, rest.advance)) = _
  rw [Tokens.grow_of_le (by rw [Expr.height]) hlimit]
  rfl

/-- A call whose arguments were read. -/
theorem read_call {inner : Nat} {name : String} {function : Builtin} {first : Tree}
    {middle close : Tokens} {args : List Expr}
    (hopen : tokens.advance.next? = some (.symbol .openParen))
    (hname : Builtin.ofName? name = some function)
    (hfirst : (Rule.tier .logical).reader size (levels? size inner) tokens.advance.advance =
      .ok (first, middle))
    (hmore : argumentsFrom ((Rule.tier .logical).reader size (levels? size inner)) size [first]
      middle = .ok (args.map Expr.tree, close))
    (haccepts : function.accepts args.length = true)
    (hclose : close.next? = some (.symbol .closeParen))
    (hlimit : (Expr.call function args).height ≤ maxHeight) :
    call size (levels? size (inner + 1)) name tokens =
      .ok ((Expr.call function args).tree, close.advance) := by
  have hheight : (args.map Expr.tree).foldl (fun height tree => max height tree.height) 0 =
      Expr.heightAll args := by
    rw [foldl_height fun tree hmem => ?_, map_tree_expr, Nat.zero_max]
    obtain ⟨e, -, rfl⟩ := List.mem_map.mp hmem
    rfl
  have hnode : close.advance.grow (.call function args) (Expr.heightAll args) =
      .ok (Expr.call function args).tree := Tokens.grow_of_le (by rw [Expr.height]) hlimit
  unfold call
  simp only [if_pos hopen, hname]
  show ((Rule.tier .logical).reader size (levels? size inner) tokens.advance.advance >>= _) = _
  rw [hfirst]
  show (argumentsFrom ((Rule.tier .logical).reader size (levels? size inner)) size [first] middle
    >>= _) = _
  rw [hmore]
  show (close.expect .closeParen >>= _) = _
  rw [Tokens.expect_eq_ok.mpr ⟨hclose, rfl⟩]
  show (if function.accepts (args.map Expr.tree).length = true then _ else _) = _
  rw [List.length_map, if_pos haccepts, map_tree_expr, hheight, hnode]
  rfl

/-- **What is taken is read,** if it keeps the limits. -/
theorem read_of_takes {goal : Goal} {ahead behind : List Token} {e : Expr} {n : Nat}
    (h : Takes goal ahead e n behind) : goal.Read size ahead e n behind := by
  induction h with
  | tier hleft hchain ihleft ihchain =>
    intro room tokens hkinds hlength hroom hlimit
    obtain ⟨hheight, hnesting⟩ := hchain.within
    obtain ⟨middle, rfl, hread⟩ := ihleft hkinds hlength (Nat.le_trans hnesting hroom)
      (Nat.le_trans hheight hlimit)
    rw [← hkinds] at hleft
    have htaken := hleft.length_ahead
    obtain ⟨rest, hrest, hmore⟩ := ihchain rfl (by omega) (Nat.le_refl size) hroom hlimit
    refine ⟨rest, hrest, ?_⟩
    rw [reader_tier, chain, hread]
    exact hmore
  | chainStop hstop =>
    rintro room rounds tokens rfl _ _ _ _
    exact ⟨tokens, rfl, chainFrom_stop hstop⟩
  | @chainNext _ _ _ _ _ _ _ right _ _ _ _ hop hright hchain ihright ihchain =>
    intro room rounds tokens hkinds hlength hsize hroom hlimit
    obtain ⟨hnext, rfl⟩ := Tokens.next?_of_kinds hkinds
    have hadvance := Tokens.length_advance hkinds
    obtain ⟨hheight, hnesting⟩ := hchain.within
    have hnode := Nat.le_trans hheight hlimit
    have hoperand : right.height ≤ maxHeight := by
      rw [Expr.height] at hnode
      exact Nat.le_trans (Nat.le_max_right _ _) (Nat.le_of_succ_le hnode)
    obtain ⟨rounds, rfl⟩ : ∃ fewer, rounds = fewer + 1 := ⟨rounds - 1, by omega⟩
    obtain ⟨middle, rfl, hread⟩ := ihright rfl (by omega)
      (Nat.le_trans (Nat.le_max_right _ _) (Nat.le_trans hnesting hroom)) hoperand
    have hmiddle : middle.ahead.length ≤ rounds := by
      have htaken := hright.length_ahead
      omega
    obtain ⟨rest, hrest, hmore⟩ := ihchain rfl hmiddle (by omega) hroom hlimit
    exact ⟨rest, hrest, (chainFrom_next hnext hop hread hnode).trans hmore⟩
  | not _ ih =>
    intro room tokens hkinds hlength hroom hlimit
    obtain ⟨hnext, rfl⟩ := Tokens.next?_of_kinds hkinds
    have hadvance := Tokens.length_advance hkinds
    obtain ⟨inner, rfl⟩ : ∃ inner, room = inner + 1 := ⟨room - 1, by omega⟩
    obtain ⟨rest, hrest, hread⟩ := ih rfl (by omega) (Nat.le_of_succ_le_succ hroom)
      (Nat.le_of_succ_le hlimit)
    refine ⟨rest, hrest, ?_⟩
    rw [Rule.reader, negation, if_pos hnext]
    exact read_unary hread hlimit
  | comparison hhead _ ih =>
    rintro room tokens rfl hlength hroom hlimit
    obtain ⟨rest, hrest, hread⟩ := ih rfl hlength hroom hlimit
    refine ⟨rest, hrest, ?_⟩
    rw [Rule.reader, negation, if_neg (Tokens.next?_eq ▸ hhead)]
    exact hread
  | sign hop _ ih =>
    intro room tokens hkinds hlength hroom hlimit
    obtain ⟨hnext, rfl⟩ := Tokens.next?_of_kinds hkinds
    have hadvance := Tokens.length_advance hkinds
    obtain ⟨inner, rfl⟩ : ∃ inner, room = inner + 1 := ⟨room - 1, by omega⟩
    obtain ⟨rest, hrest, hread⟩ := ih rfl (by omega) (Nat.le_of_succ_le_succ hroom)
      (Nat.le_of_succ_le hlimit)
    refine ⟨rest, hrest, ?_⟩
    simp only [Rule.reader, signed, hnext, Option.bind_some, hop]
    exact read_unary hread hlimit
  | stepped hstop _ ih =>
    rintro room tokens rfl hlength hroom hlimit
    obtain ⟨rest, hrest, hread⟩ := ih rfl hlength hroom hlimit
    refine ⟨rest, hrest, ?_⟩
    simp only [Rule.reader, signed, Tokens.next?_eq, hstop]
    exact hread
  | primary hoperand hsteps ihoperand ihsteps =>
    intro room tokens hkinds hlength hroom hlimit
    obtain ⟨hheight, hnesting⟩ := hsteps.within
    obtain ⟨middle, rfl, hread⟩ := ihoperand hkinds hlength (Nat.le_trans hnesting hroom)
      (Nat.le_trans hheight hlimit)
    rw [← hkinds] at hoperand
    have hmiddle : middle.ahead.length ≤ size := by
      have htaken := hoperand.length_ahead
      omega
    obtain ⟨rest, hrest, hmore⟩ := ihsteps rfl hmiddle hlimit
    rw [Rule.reader] at hread
    refine ⟨rest, hrest, ?_⟩
    rw [Rule.reader, stepped, hread]
    exact hmore
  | stepsStop hstop =>
    rintro rounds tokens rfl _ _
    exact ⟨tokens, rfl, stepsFrom_stop hstop⟩
  | stepsNext hop hsteps ih =>
    intro rounds tokens hkinds hlength hlimit
    obtain ⟨hnext, rfl⟩ := Tokens.next?_of_kinds hkinds
    have hadvance := Tokens.length_advance hkinds
    have hnode := Nat.le_trans hsteps.within.1 hlimit
    obtain ⟨rounds, rfl⟩ : ∃ fewer, rounds = fewer + 1 := ⟨rounds - 1, by omega⟩
    obtain ⟨rest, hrest, hmore⟩ := ih rfl (Nat.le_of_succ_le_succ (hadvance ▸ hlength)) hlimit
    exact ⟨rest, hrest, (stepsFrom_next hnext hop hnode).trans hmore⟩
  | number | text =>
    intro room tokens hkinds _ _ _
    obtain ⟨hnext, hadvance⟩ := Tokens.next?_of_kinds hkinds
    refine ⟨tokens.advance, hadvance, ?_⟩
    simp only [Rule.reader, primary, hnext]
    rfl
  | @cell address place _ hparse =>
    intro room tokens hkinds _ _ _
    obtain ⟨hnext, hadvance⟩ := Tokens.next?_of_kinds hkinds
    have hcanonical : CellRef.canonical address = .ok place.address := by
      rw [CellRef.canonical, hparse]
      rfl
    refine ⟨tokens.advance, hadvance, ?_⟩
    simp only [Rule.reader, primary, hnext, hcanonical]
    rfl
  | group _ ih =>
    intro room tokens hkinds hlength hroom hlimit
    obtain ⟨hnext, rfl⟩ := Tokens.next?_of_kinds hkinds
    have hadvance := Tokens.length_advance hkinds
    obtain ⟨inner, rfl⟩ : ∃ inner, room = inner + 1 := ⟨room - 1, by omega⟩
    obtain ⟨close, hclose, hread⟩ := ih rfl (by omega) (Nat.le_of_succ_le_succ hroom)
      (Nat.le_of_succ_le hlimit)
    obtain ⟨hparen, hrest⟩ := Tokens.next?_of_kinds hclose
    refine ⟨close.advance, hrest, ?_⟩
    simp only [Rule.reader, primary, hnext]
    exact read_group hread hparen hlimit
  | @call _ _ _ _ _ first _ _ _ hname hfirst harguments ihfirst iharguments =>
    intro room tokens hkinds hlength hroom hlimit
    obtain ⟨hnext, hbracket⟩ := Tokens.next?_of_kinds hkinds
    obtain ⟨hopen, rfl⟩ := Tokens.next?_of_kinds hbracket
    have hadvance := Tokens.length_advance (hbracket.symm ▸ hkinds)
    have hinside := Tokens.length_advance hbracket
    obtain ⟨hheights, hnesting⟩ := harguments.within
    obtain ⟨inner, rfl⟩ : ∃ inner, room = inner + 1 := ⟨room - 1, by omega⟩
    have hheight := hheights first (List.mem_singleton_self first)
    obtain ⟨middle, rfl, hread⟩ := ihfirst rfl (by omega)
      (Nat.le_of_lt_succ (Nat.lt_of_lt_of_le hnesting hroom))
      (Nat.le_trans (Nat.le_of_lt hheight) hlimit)
    have hmiddle : middle.ahead.length ≤ size := by
      have htaken := hfirst.length_ahead
      omega
    obtain ⟨args, close, rfl, haccepts, hclose, hmore⟩ :=
      iharguments rfl hmiddle (Nat.le_refl size) hroom hlimit
    obtain ⟨hparen, hrest⟩ := Tokens.next?_of_kinds hclose
    refine ⟨close.advance, hrest, ?_⟩
    simp only [Rule.reader, primary, hnext]
    exact read_call hopen hname hread hmore haccepts hparen hlimit
  | @argument _ read _ _ _ argument _ _ _ _ hnext hrest ihnext ihrest =>
    intro room rounds tokens hkinds hlength hsize hroom hlimit
    obtain ⟨hcomma, rfl⟩ := Tokens.next?_of_kinds hkinds
    have hadvance := Tokens.length_advance hkinds
    obtain ⟨hheights, hnesting⟩ := hrest.within
    obtain ⟨rounds, rfl⟩ : ∃ fewer, rounds = fewer + 1 := ⟨rounds - 1, by omega⟩
    have hheight := hheights argument (List.mem_append_right _ (List.mem_singleton_self argument))
    obtain ⟨middle, rfl, hread⟩ := ihnext rfl (by omega)
      (Nat.le_trans (Nat.le_max_right _ _) (Nat.le_of_lt_succ (Nat.lt_of_lt_of_le hnesting hroom)))
      (Nat.le_trans (Nat.le_of_lt hheight) hlimit)
    have hmiddle : middle.ahead.length ≤ rounds := by
      have htaken := hnext.length_ahead
      omega
    obtain ⟨args, close, he, haccepts, hclose, hmore⟩ :=
      ihrest rfl hmiddle (by omega) hroom hlimit
    refine ⟨args, close, he, haccepts, hclose, ?_⟩
    have hlatest : ((read ++ [argument]).map Expr.tree).reverse =
        argument.tree :: (read.map Expr.tree).reverse := by simp
    rw [hlatest] at hmore
    rw [argumentsFrom, if_pos hcomma, hread]
    exact hmore
  | @close _ read _ _ haccepts =>
    intro room rounds tokens hkinds hlength _ _ _
    obtain ⟨hparen, -⟩ := Tokens.next?_of_kinds hkinds
    have hadvance := Tokens.length_advance (Tokens.kinds_of_next? hparen)
    obtain ⟨rounds, rfl⟩ : ∃ fewer, rounds = fewer + 1 := ⟨rounds - 1, by omega⟩
    refine ⟨read, tokens, rfl, haccepts, hkinds, ?_⟩
    rw [argumentsFrom, if_neg (by rw [hparen]; decide), List.reverse_reverse]

/-! ### Formulas -/

/-- **Tokens are read as an expression exactly when the grammar derives it within the limits.** -/
theorem parseTokens_eq_ok {e : Expr} : parseTokens tokens = .ok e ↔
    ∃ n ≤ maxNesting, e.height ≤ maxHeight ∧ Derives (.tier .logical) ⟨tokens.kinds, e, n⟩ := by
  constructor
  · intro h
    unfold parseTokens at h
    split at h
    · cases h
    · obtain ⟨⟨tree, rest⟩, hread, h⟩ := bind_eq_ok h
      simp only at h
      split at h
      · rename_i hend
        obtain rfl := Except.ok.inj h
        obtain ⟨hsized, n, hn, htakes⟩ := reader_follows tokens.ahead.length maxNesting
          (.tier .logical) tokens tree rest (Nat.le_refl _) hread
        obtain ⟨front, hkinds, hderives⟩ := htakes.means
        rw [Tokens.next?_eq, List.head?_eq_none_iff] at hend
        rw [hend, List.append_nil] at hkinds
        exact ⟨n, hn, hsized.height ▸ hsized.limit, hkinds ▸ hderives⟩
      · cases h
  · rintro ⟨n, hn, hlimit, hderives⟩
    obtain ⟨token, more, hkinds, -⟩ := hderives.begins
    obtain ⟨hnext, -⟩ := Tokens.next?_of_kinds hkinds
    have htakes := hderives.takes Rule.ends_nil
    rw [List.append_nil] at htakes
    obtain ⟨rest, hrest, hread⟩ := read_of_takes htakes rfl (Nat.le_refl _) hn hlimit
    have hend : rest.next? = none := by rw [Tokens.next?_eq, hrest]; rfl
    have hlogical : logical tokens.ahead.length (levels? tokens.ahead.length maxNesting) tokens =
        .ok (e.tree, rest) := hread
    rw [parseTokens, if_neg (by rw [hnext]; simp)]
    simp only [hlogical, bind, Except.bind, hend]
    rfl

/-- The text of a formula without the equals sign that may stand in front. -/
def body (formula : String) : String :=
  match formula.toList with
  | '=' :: rest => String.ofList rest
  | _ => formula

/-- Where this text begins in that of the formula. -/
def base (formula : String) : Nat := if formula.toList.head? = some '=' then 1 else 0

theorem body_of_cons {formula : String} {rest : List Char} (h : formula.toList = '=' :: rest) :
    body formula = String.ofList rest := by
  rw [body, h]
  rfl

theorem body_of_plain {formula : String} (h : formula.toList.head? ≠ some '=') :
    body formula = formula := by
  unfold body
  split
  · rename_i rest hformula
    exact absurd (by rw [hformula]; rfl) h
  · rfl

/-- A formula is read from its text, and errors are told by their places in the formula. -/
theorem parse_eq (formula : String) :
    parse formula = (parseBody (body formula)).mapError (·.shift (base formula)) := by
  unfold parse
  split
  · rename_i rest hformula
    rw [body_of_cons hformula, base, hformula, List.head?_cons, if_pos rfl]
  · rename_i hplain
    have hhead : formula.toList.head? ≠ some '=' := fun h => by
      obtain ⟨rest, hrest⟩ := List.head?_eq_some_iff.mp h
      exact hplain rest hrest
    rw [body_of_plain hhead, base, if_neg hhead]
    cases parseBody formula with
    | ok e => rfl
    | error error => cases error <;> rfl

theorem parse_eq_ok {formula : String} {e : Expr} :
    parse formula = .ok e ↔ parseBody (body formula) = .ok e := by
  rw [parse_eq]
  cases parseBody (body formula) <;> simp [Except.mapError]

/-- What a formula is read as is derived. -/
theorem derives_of_parse {formula : String} {e : Expr} (h : parse formula = .ok e) :
    ∃ tokens nesting, Derives (.tier .logical) ⟨tokens, e, nesting⟩ := by
  obtain ⟨tokens, -, htokens⟩ := bind_eq_ok (parse_eq_ok.mp h)
  obtain ⟨nesting, -, -, hderives⟩ := parseTokens_eq_ok.mp htokens
  exact ⟨tokens.kinds, nesting, hderives⟩

/-- **A formula is read as an expression exactly when the grammar derives it** from the tokens of
its text, with at most 100 constructs open around any token and a tree at most 512 nodes high;
and the grammar is unambiguous. -/
theorem parse_iff_derives :
    (∀ (formula : String) (e : Expr), parse formula = .ok e ↔
      ∃ tokens, tokenize (body formula) = .ok tokens ∧ ∃ nesting ≤ 100, e.height ≤ 512 ∧
        Derives (.tier .logical) ⟨tokens.kinds, e, nesting⟩) ∧
    ∀ (rule : Rule) (first second : Phrase), Derives rule first → Derives rule second →
      first.tokens = second.tokens → first = second := by
  refine ⟨fun formula e => ?_, fun _ _ _ hfirst hsecond h => hfirst.unique hsecond h⟩
  rw [parse_eq_ok, parseBody]
  constructor
  · intro h
    obtain ⟨tokens, htokens, h⟩ := bind_eq_ok h
    exact ⟨tokens, htokens, parseTokens_eq_ok.mp h⟩
  · rintro ⟨tokens, htokens, h⟩
    rw [htokens]
    exact parseTokens_eq_ok.mpr h

/-- A sign binds tighter than a power, and a step tighter than a sign. -/
theorem signedPower_derives : parse "=-b02++ ^ 2" =
      .ok (.binary .pow (.unary .negate (.unary .increment (.cell "B2"))) (.number 2)) ∧
    ∀ phrase : Phrase, Derives (.tier .power) phrase →
      phrase.tokens = [.symbol .minus, .cell "B02", .symbol .increment, .symbol .caret, .number 2] →
      phrase.expr = .binary .pow (.unary .negate (.unary .increment (.cell "B2"))) (.number 2) := by
  obtain ⟨hparse, hunique⟩ := parse_iff_derives
  have hcell : Derives .primary ⟨[.cell "B02"], .cell "B2", 0⟩ := by
    have hplace : CellRef.parse "B02" = .ok ⟨1, 1⟩ := by decide +kernel
    have haddress : CellRef.address ⟨1, 1⟩ = "B2" := by decide +kernel
    exact haddress ▸ .cell hplace
  have hbase : Derives (.tier .power) ⟨[.symbol .minus, .cell "B02", .symbol .increment],
      .unary .negate (.unary .increment (.cell "B2")), 1⟩ :=
    .operand (.sign (by decide) (.stepped (.step (.primary hcell) (by decide))))
  have hpower := Derives.binary hbase (by decide : (.symbol .caret, .pow) ∈ Tier.power.operators)
    (.stepped (.primary (.number 2)))
  refine ⟨(hparse _ _).mpr ?_, fun phrase hphrase htokens => ?_⟩
  · refine ⟨⟨[⟨.symbol .minus, 0⟩, ⟨.cell "B02", 1⟩, ⟨.symbol .increment, 4⟩, ⟨.symbol .caret, 7⟩,
      ⟨.number 2, 9⟩], 10⟩, by decide +kernel, 1, by decide, by decide, ?_⟩
    exact .operand (.comparison (.operand (.operand (.operand hpower))))
  · rw [hunique _ _ _ hphrase hpower htokens]
    rfl

end Gridcalc.Formula
