import Gridcalc.Proofs.Formula.Descent.Machine
import Gridcalc.Proofs.Formula.Parsing

/-! # Safety of the descent

What holds in every state of a run is put into one invariant (`Safe`): the position is that of a
token or of the end, the counter counts the constructs that are open, every tree that is kept tells
its height and is no higher than allowed, and each reader that waits can go on with what it will
get.  A step from a safe state is no crash and leads to a safe state (`Safe.step`).

The same case analysis shows how a run comes forward.  As long as no token is passed, the machine
first goes down the rules and then up again, which its controls count as levels (`Control.level`).
So between two visits of one rule or of one loop a token was passed (`Safe.pos_lt`).
-/
namespace Gridcalc.Formula

/-- How high a rule stands in the grammar. -/
def Rule.rank : Rule → Nat
  | .primary => 0
  | .stepped => 1
  | .signed => 2
  | .tier .power => 3
  | .tier .multiplicative => 4
  | .tier .additive => 5
  | .tier .comparison => 6
  | .negation => 7
  | .tier .logical => 8

theorem Tier.rank_operand (tier : Tier) : tier.operand.rank < (Rule.tier tier).rank := by
  cases tier <;> decide

theorem Rule.rank_le (rule : Rule) : rule.rank ≤ 8 := by
  rcases rule with tier | _ | _ | _ | _
  · cases tier <;> decide
  all_goals decide

theorem Tokens.skip?_eq_some {tokens here : Tokens} {pos : Nat} :
    tokens.skip? pos = some here ↔
      pos ≤ tokens.ahead.length ∧ here = { tokens with ahead := tokens.ahead.drop pos } := by
  rw [skip?]
  split
  · rename_i hpos
    simp [hpos, eq_comm]
  · rename_i hpos
    simp [hpos]

namespace Descent

/-! ### What a state keeps -/

/-- The trees of a reader that waits. -/
def Frame.trees : Frame → List Tree
  | .next _ left _ => [left]
  | .argument call => call.read
  | .first _ | .not | .sign _ | .steps | .group => []

/-- The trees that are at hand. -/
def Control.trees : Control → List Tree
  | .chain _ tree | .steps tree | .closeGroup tree | .give _ tree => [tree]
  | .arguments call | .closeCall call => call.read
  | .start | .read _ | .word _ _ | .refuse _ => []

/-- All the trees of a state. -/
def State.trees (s : State) : List Tree := s.control.trees ++ s.stack.flatMap Frame.trees

/-- A waiting reader keeps a construct open that is counted: a negation, a sign, a parenthesis or a
call. -/
def Frame.opened : Frame → Nat
  | .not | .sign _ | .group | .argument _ => 1
  | .first _ | .next _ _ _ | .steps => 0

/-- A call is open as long as arguments are read. -/
def Control.opened : Control → Nat
  | .arguments _ => 1
  | _ => 0

/-- How many constructs some waiting readers keep open. -/
def openedBy : List Frame → Nat
  | [] => 0
  | frame :: rest => frame.opened + openedBy rest

/-- **How many constructs are open.** -/
def State.opened (s : State) : Nat := s.control.opened + openedBy s.stack

/-- A call that is being read stands somewhere in the text, and tells the height of its
arguments. -/
structure Call.Sound (tokens : Tokens) (call : Call) : Prop where
  start : call.start ≤ tokens.ahead.length
  height : call.height = tallest call.read.reverse
  sized : ∀ tree ∈ call.read, tree.Sized

/-- The trees and the call of a waiting reader are as they should be. -/
def Frame.Sound (tokens : Tokens) : Frame → Prop
  | .next _ left _ => left.Sized
  | .argument call => call.Sound tokens
  | .first _ | .not | .sign _ | .steps | .group => True

/-- The trees and the places at hand are as they should be. -/
def Control.Sound (tokens : Tokens) : Control → Prop
  | .chain _ tree | .steps tree | .closeGroup tree | .give _ tree => tree.Sized
  | .arguments call | .closeCall call => call.Sound tokens
  | .word _ mark => mark ≤ tokens.ahead.length
  | .start | .read _ | .refuse _ => True

theorem Frame.Sound.trees {tokens : Tokens} {frame : Frame} (h : frame.Sound tokens) :
    ∀ tree ∈ frame.trees, tree.Sized := by
  cases frame with
  | next _ left _ => exact List.forall_mem_singleton.mpr h
  | argument call => exact h.sized
  | first _ | not | sign _ | steps | group => exact nofun

theorem Control.Sound.trees {tokens : Tokens} {control : Control} (h : control.Sound tokens) :
    ∀ tree ∈ control.trees, tree.Sized := by
  cases control with
  | chain _ tree | steps tree | closeGroup tree | give _ tree =>
    exact List.forall_mem_singleton.mpr h
  | arguments call | closeCall call => exact h.sized
  | start | read _ | word _ _ | refuse _ => exact nofun

/-! ### Readers that wait -/

/-- The rule that a reader waits for. -/
def Frame.awaits : Frame → Rule
  | .first tier | .next tier _ _ => tier.operand
  | .not => .negation
  | .sign _ => .signed
  | .steps => .primary
  | .group | .argument _ => .tier .logical

/-- The rule that a waiting reader reads itself. -/
def Frame.rule : Frame → Rule
  | .first tier | .next tier _ _ => .tier tier
  | .not => .negation
  | .sign _ => .signed
  | .steps => .stepped
  | .group | .argument _ => .primary

/-- The rule that is being read. -/
def Control.rule : Control → Rule
  | .start => .tier .logical
  | .read rule | .give rule _ => rule
  | .chain tier _ => .tier tier
  | .steps _ => .stepped
  | .word _ _ | .arguments _ | .closeGroup _ | .closeCall _ | .refuse _ => .primary

/-- Each reader gets a phrase of the rule that it waits for, or of one below it. -/
def Fits : Rule → List Frame → Prop
  | _, [] => True
  | rule, frame :: rest => rule.rank ≤ frame.awaits.rank ∧ Fits frame.rule rest

theorem Fits.of_le {stack : List Frame} {high low : Rule} (h : Fits high stack)
    (hrank : low.rank ≤ high.rank) : Fits low stack := by
  cases stack with
  | nil => trivial
  | cons frame rest => exact ⟨Nat.le_trans hrank h.1, h.2⟩

/-! ### The invariant -/

/-- **What holds of every state of a run.** -/
structure Safe (tokens : Tokens) (s : State) : Prop where
  pos_le : s.pos ≤ tokens.ahead.length
  nesting_eq : s.nesting = s.opened
  nesting_le : s.nesting ≤ maxNesting
  control : s.control.Sound tokens
  frames : ∀ frame ∈ s.stack, frame.Sound tokens
  fits : Fits s.control.rule s.stack

/-- How far the machine has come with the token ahead: down the rules, and up again. -/
def Control.level : Control → Nat
  | .start => 0
  | .read rule => 9 - rule.rank
  | .word _ _ => 9
  | .chain tier _ => 10 + 2 * (Rule.tier tier).rank
  | .steps _ => 10 + 2 * Rule.stepped.rank
  | .give rule _ => 11 + 2 * rule.rank
  | .arguments _ | .closeGroup _ => 28
  | .closeCall _ => 29
  | .refuse _ => 30

/-- Where the machine comes back to: the reader of a rule, or the head of a loop. -/
inductive Place where
  | rule (rule : Rule)
  | chain (tier : Tier)
  | steps
  | arguments

def Control.place : Control → Option Place
  | .read rule => some (.rule rule)
  | .chain tier _ => some (.chain tier)
  | .steps _ => some .steps
  | .arguments _ => some .arguments
  | _ => none

theorem Control.level_eq_of_place {c d : Control} {place : Place} (hc : c.place = some place)
    (hd : d.place = some place) : c.level = d.level := by
  cases c <;> cases hc <;> cases d <;> cases hd <;> rfl

/-- One state comes before another: a token lies between them, or else a level, or neither, but then
the later one is at no place to come back to. -/
def State.Before (s t : State) : Prop :=
  s.pos < t.pos ∨ s.pos = t.pos ∧ (s.control.level < t.control.level ∨
    s.control.level = t.control.level ∧ t.control.place = none)

theorem State.Before.trans {s t u : State} (hst : s.Before t) (htu : t.Before u) : s.Before u := by
  grind [Before]

/-- Another state is safe too, and behind this one unless the formula is refused. -/
structure Leads (tokens : Tokens) (s t : State) : Prop where
  safe : Safe tokens t
  forward : (∃ fault, t.control = .refuse fault) ∨ s.Before t

/-- What a step from a state may be. -/
def Progress.Safe (tokens : Tokens) (s : State) : Progress → Prop
  | .next t => Leads tokens s t
  | .stop _ => True
  | .crash => False

/-! ### The parts of a step -/

section Parts
variable {tokens here : Tokens} {s t : State} {control : Control} {frame : Frame}
  {rest : List Frame} {rule : Rule} {token : Token}

theorem Safe.goto (h : Safe tokens s) (hrank : control.rule.rank ≤ s.control.rule.rank)
    (hopened : control.opened = s.control.opened) (hsound : control.Sound tokens) :
    Safe tokens (s.goto control) where
  pos_le := h.pos_le
  nesting_eq := by
    rw [State.goto, State.opened, hopened]
    exact h.nesting_eq
  nesting_le := h.nesting_le
  control := hsound
  frames := h.frames
  fits := h.fits.of_le hrank

theorem Safe.at (h : Safe tokens s) {pos : Nat} (hpos : pos ≤ tokens.ahead.length) :
    Safe tokens { s with pos } :=
  { h with pos_le := hpos }

theorem pos_lt_of_next {pos : Nat} (hhere : tokens.skip? pos = some here)
    (hnext : here.next? = some token) : pos < tokens.ahead.length := by
  obtain ⟨-, rfl⟩ := Tokens.skip?_eq_some.mp hhere
  by_contra hend
  have hnil : tokens.ahead.drop pos = [] := List.drop_eq_nil_of_le (Nat.le_of_not_lt hend)
  rw [Tokens.next?, hnil] at hnext
  cases hnext

theorem pass_of_next (hnext : here.next? = some token) :
    s.pass here = { s with pos := s.pos + 1 } := by
  rw [State.pass, if_neg (by simp [hnext])]

/-- Behind a token that is passed the machine may go on at any level. -/
theorem Safe.pass (h : Safe tokens s) (hhere : tokens.skip? s.pos = some here)
    (hnext : here.next? = some token) :
    Safe tokens (s.pass here) ∧ s.pos < (s.pass here).pos := by
  rw [pass_of_next hnext]
  exact ⟨h.at (pos_lt_of_next hhere hnext), Nat.lt_succ_self _⟩

theorem Safe.enter (h : Safe tokens s) (hrank : frame.rule.rank ≤ s.control.rule.rank)
    (hopened : frame.opened = s.control.opened) (hsound : frame.Sound tokens)
    (hawaits : rule.rank ≤ frame.awaits.rank) : Safe tokens (s.enter frame rule) where
  pos_le := h.pos_le
  nesting_eq := by
    have hcount := h.nesting_eq
    simp only [State.enter, State.opened, Control.opened, openedBy] at *
    omega
  nesting_le := h.nesting_le
  control := trivial
  frames := List.forall_mem_cons.mpr ⟨hsound, h.frames⟩
  fits := ⟨hawaits, h.fits.of_le hrank⟩

/-- A reader that gets what it waits for does not wait any more. -/
theorem Safe.close (h : Safe tokens s) (hgive : s.control.opened = 0)
    (hstack : s.stack = frame :: rest) {nesting : Nat}
    (hcount : nesting + frame.opened = s.nesting + control.opened) (hless : nesting ≤ s.nesting)
    (hrank : control.rule.rank ≤ frame.rule.rank) (hsound : control.Sound tokens) :
    Safe tokens { s with control, stack := rest, nesting } where
  pos_le := h.pos_le
  nesting_eq := by
    have hopened := h.nesting_eq
    rw [State.opened, hstack, openedBy] at hopened
    rw [State.opened]
    dsimp only
    omega
  nesting_le := Nat.le_trans hless h.nesting_le
  control := hsound
  frames := fun other hmem => h.frames other (hstack ▸ List.mem_cons_of_mem _ hmem)
  fits := by
    have hfits := h.fits
    rw [hstack] at hfits
    exact hfits.2.of_le hrank

theorem Safe.refuse (h : Safe tokens t) (hopened : t.control.opened = 0) (fault : SyntaxFault) :
    Leads tokens s (t.goto (.refuse fault)) :=
  ⟨h.goto (Nat.zero_le _) hopened.symm trivial, .inl ⟨fault, rfl⟩⟩

theorem Safe.refuseAt (h : Safe tokens t) (hopened : t.control.opened = 0) {pos : Nat}
    (hpos : pos ≤ tokens.ahead.length) (fault : SyntaxFault) :
    Leads tokens s (t.refuseAt pos fault) :=
  (h.at hpos).refuse hopened fault

/-- A construct is opened at a token, which is passed. -/
theorem Safe.descend (h : Safe tokens s) (hhere : tokens.skip? s.pos = some here)
    (hnext : here.next? = some token) (hcontrol : s.control.opened = 0)
    (hrank : frame.rule.rank ≤ s.control.rule.rank) (hopened : frame.opened = 1)
    (hsound : frame.Sound tokens) (hawaits : rule.rank ≤ frame.awaits.rank) :
    Leads tokens s (s.descend here frame rule) := by
  unfold State.descend
  split
  · exact h.refuse hcontrol _
  · rename_i hroom
    rw [pass_of_next hnext]
    refine ⟨⟨pos_lt_of_next hhere hnext, ?_, by simp only [State.enter]; omega, trivial, ?_, ?_⟩,
      .inr (.inl (Nat.lt_succ_self _))⟩
    · have hcount := h.nesting_eq
      simp only [State.enter, State.opened, Control.opened, openedBy] at *
      omega
    · exact List.forall_mem_cons.mpr ⟨hsound, h.frames⟩
    · exact ⟨hawaits, h.fits.of_le hrank⟩

theorem leads_grow {expr : Expr} {height : Nat} {use : Tree → Control}
    (hrefuse : Leads tokens s (t.goto (.refuse .nestedTooDeeply)))
    (huse : ∀ tree : Tree, tree.Sized → Leads tokens s (t.goto (use tree)))
    (hheight : expr.height = height + 1) : Leads tokens s (t.grow expr height use) := by
  unfold State.grow
  split
  · exact hrefuse
  · rename_i hlower
    exact huse _ ⟨hheight.symm, Nat.lt_of_not_le hlower⟩

theorem leads_expect {wanted : Symbol} {go : State → State}
    (hrefuse : ∀ fault, Leads tokens s (t.goto (.refuse fault)))
    (hgo : here.next? = some (.symbol wanted) → Leads tokens s (go (t.pass here))) :
    Leads tokens s (t.expect here wanted go) := by
  unfold State.expect
  split
  · rename_i hnext
    exact hgo hnext
  · exact hrefuse _

/-- A counter from which a construct is taken is not zero. -/
theorem safe_ascend {go : State → State} (hopen : 0 < s.nesting)
    (hgo : ∀ nesting, nesting + 1 = s.nesting →
      Leads tokens s (go { s with stack := rest, nesting })) :
    (s.ascend rest go).Safe tokens s := by
  unfold State.ascend
  split
  · rename_i hzero
    omega
  · rename_i nesting hnesting
    exact hgo nesting hnesting.symm

theorem Safe.onward (h : Safe tokens t) (hpos : s.pos < t.pos) : Leads tokens s t :=
  ⟨h, .inr (.inl hpos)⟩

theorem Safe.upward (h : Safe tokens t) (hpos : s.pos = t.pos)
    (hlevel : s.control.level < t.control.level) : Leads tokens s t :=
  ⟨h, .inr (.inr ⟨hpos, .inl hlevel⟩)⟩

/-- A reader may give what it got to the next one at the same level. -/
theorem Safe.outward (h : Safe tokens t) (hpos : s.pos = t.pos)
    (hlevel : s.control.level ≤ t.control.level) (hplace : t.control.place = none) :
    Leads tokens s t := by
  obtain hless | hsame := Nat.lt_or_eq_of_le hlevel
  · exact h.upward hpos hless
  · exact ⟨h, .inr (.inr ⟨hpos, .inr ⟨hsame, hplace⟩⟩)⟩

/-- A construct is closed when the reader that opened it gets what it waits for. -/
theorem Safe.ascend (h : Safe tokens s) (hgive : s.control.opened = 0)
    (hstack : s.stack = frame :: rest) (hopened : frame.opened = 1) {go : State → State}
    (hgo : ∀ t : State, s.pos = t.pos → (∀ control : Control,
      control.rule.rank ≤ frame.rule.rank → control.opened = 0 → control.Sound tokens →
      Safe tokens (t.goto control)) → Leads tokens s (go t)) :
    (s.ascend rest go).Safe tokens s := by
  have hcount := h.nesting_eq
  rw [State.opened, hstack, openedBy, hopened] at hcount
  refine safe_ascend (by omega) fun nesting hnesting =>
    hgo _ rfl fun control hrank hclosed hsound => ?_
  exact h.close hgive hstack (by rw [hopened, hclosed]; exact hnesting)
    (hnesting ▸ Nat.le_succ nesting) hrank hsound

end Parts

/-! ### Steps -/

/-- A step from every safe state with a certain control is safe. -/
def Control.GoesOn (tokens : Tokens) (control : Control) : Prop :=
  ∀ {here : Tokens} {stack : List Frame} {pos nesting : Nat}, tokens.skip? pos = some here →
    Safe tokens ⟨control, stack, pos, nesting⟩ →
    (step tokens ⟨control, stack, pos, nesting⟩).Safe tokens ⟨control, stack, pos, nesting⟩

section Steps
variable {tokens : Tokens}

theorem primary_goesOn : (Control.read .primary).GoesOn tokens := by
  intro here stack pos nesting hhere h
  have hleaf {token : Token} {expr : Expr} (hnext : here.next? = some token)
      (hexpr : expr.height = 1) : Leads tokens ⟨.read .primary, stack, pos, nesting⟩
        ((State.pass here ⟨.read .primary, stack, pos, nesting⟩).goto
          (.give .primary (.leaf expr))) := by
    obtain ⟨hpass, hpos⟩ := h.pass hhere hnext
    exact Safe.onward (hpass.goto (Nat.le_refl _) rfl (sized_leaf hexpr)) hpos
  simp only [step, hhere, State.readRule, State.readPrimary]
  split
  · rename_i value hnext
    exact hleaf hnext rfl
  · rename_i content hnext
    exact hleaf hnext rfl
  · rename_i address hnext
    split
    · exact hleaf hnext rfl
    · exact h.refuse rfl _
  · rename_i name hnext
    obtain ⟨hpass, hpos⟩ := h.pass hhere hnext
    exact Safe.onward (hpass.goto (Nat.le_refl _) rfl h.pos_le) hpos
  · rename_i hnext
    exact h.descend hhere hnext rfl (Nat.le_refl _) rfl trivial (Nat.le_refl _)
  · exact h.refuse rfl _
  · exact h.refuse rfl _

theorem read_goesOn : ∀ rule : Rule, (Control.read rule).GoesOn tokens
  | .tier tier, _, _, _, _, hhere, h => by
    have hlower := tier.rank_operand
    have hhighest := (Rule.tier tier).rank_le
    have hlevel : 9 - (Rule.tier tier).rank < 9 - tier.operand.rank := by omega
    simp only [step, hhere, State.readRule]
    exact Safe.upward (h.enter (Nat.le_refl _) rfl trivial (Nat.le_refl _)) rfl hlevel
  | .negation, _, _, _, _, hhere, h => by
    simp only [step, hhere, State.readRule]
    split
    · rename_i hnext
      exact h.descend hhere hnext rfl (Nat.le_refl _) rfl trivial (Nat.le_refl _)
    · exact Safe.upward (h.goto (by decide : 6 ≤ 7) rfl trivial) rfl (by decide : 2 < 3)
  | .signed, _, _, _, _, hhere, h => by
    simp only [step, hhere, State.readRule]
    split
    · rename_i op hsign
      obtain ⟨token, hnext, -⟩ := Option.bind_eq_some_iff.mp hsign
      exact h.descend hhere hnext rfl (Nat.le_refl _) rfl trivial (Nat.le_refl _)
    · exact Safe.upward (h.goto (by decide : 1 ≤ 2) rfl trivial) rfl (by decide : 7 < 8)
  | .stepped, _, _, _, _, hhere, h => by
    simp only [step, hhere, State.readRule]
    exact Safe.upward (h.enter (Nat.le_refl _) rfl trivial (Nat.le_refl _)) rfl (by decide : 8 < 9)
  | .primary, _, _, _, _, hhere, h => primary_goesOn hhere h

theorem word_goesOn (name : String) (mark : Nat) : (Control.word name mark).GoesOn tokens := by
  intro here stack pos nesting hhere h
  have hmark : mark ≤ tokens.ahead.length := h.control
  simp only [step, hhere, State.readWord]
  split
  · rename_i hnext
    split
    · exact h.refuseAt rfl hmark _
    · exact h.descend hhere hnext rfl (Nat.le_refl _) rfl ⟨hmark, rfl, nofun⟩ (Nat.le_refl _)
  · exact h.refuseAt rfl hmark _

theorem level_lt_give (tier : Tier) (left tree : Tree) :
    (Control.chain tier left).level < (Control.give (.tier tier) tree).level :=
  Nat.add_lt_add_right (by decide) _

theorem chain_goesOn (tier : Tier) (left : Tree) : (Control.chain tier left).GoesOn tokens := by
  intro here stack pos nesting hhere h
  simp only [step, hhere]
  split
  · rename_i op hop
    obtain ⟨token, hnext, -⟩ := Option.bind_eq_some_iff.mp hop
    obtain ⟨hpass, hpos⟩ := h.pass hhere hnext
    exact Safe.onward (hpass.enter (Nat.le_refl _) rfl h.control (Nat.le_refl _)) hpos
  · exact Safe.upward (h.goto (Nat.le_refl _) rfl h.control) rfl (level_lt_give tier left left)

theorem steps_goesOn (operand : Tree) : (Control.steps operand).GoesOn tokens := by
  intro here stack pos nesting hhere h
  have hsized : operand.Sized := h.control
  simp only [step, hhere]
  split
  · rename_i op hop
    obtain ⟨token, hnext, -⟩ := Option.bind_eq_some_iff.mp hop
    obtain ⟨hpass, hpos⟩ := h.pass hhere hnext
    exact leads_grow (hpass.refuse rfl _)
      (fun tree htree => Safe.onward (hpass.goto (Nat.le_refl _) rfl htree) hpos)
      (by rw [Expr.height, hsized.height])
  · exact Safe.upward (h.goto (Nat.le_refl _) rfl hsized) rfl (by decide : 12 < 13)

theorem arguments_goesOn (call : Call) : (Control.arguments call).GoesOn tokens := by
  intro here stack pos nesting hhere h
  have hcount : nesting = 1 + openedBy stack := h.nesting_eq
  simp only [step, hhere]
  split
  · rename_i hcomma
    obtain ⟨hpass, hpos⟩ := h.pass hhere hcomma
    exact Safe.onward (hpass.enter (Nat.le_refl _) rfl h.control (Nat.le_refl _)) hpos
  · refine safe_ascend (by dsimp only; omega) fun fewer hfewer => ?_
    have hless : fewer + 1 = nesting := hfewer
    have hclosed : fewer = 0 + openedBy stack := by omega
    have hlimit : fewer ≤ maxNesting := Nat.le_trans (hless ▸ Nat.le_succ fewer) h.nesting_le
    exact Safe.upward ⟨h.pos_le, hclosed, hlimit, h.control, h.frames, h.fits⟩ rfl
      (by decide : 28 < 29)

theorem closeGroup_goesOn (inner : Tree) : (Control.closeGroup inner).GoesOn tokens := by
  intro here stack pos nesting hhere h
  have hsized : inner.Sized := h.control
  simp only [step, hhere]
  refine leads_expect (fun fault => h.refuse rfl fault) fun hnext => ?_
  obtain ⟨hpass, hpos⟩ := h.pass hhere hnext
  exact leads_grow (hpass.refuse rfl _)
    (fun tree htree => Safe.onward (hpass.goto (Nat.le_refl _) rfl htree) hpos)
    (by rw [Expr.height, hsized.height])

theorem Call.Sound.height_call {call : Call} (h : call.Sound tokens) :
    (Expr.call call.function (call.read.reverse.map (·.expr))).height = call.height + 1 := by
  rw [h.height, tallest, foldl_height, Nat.zero_max, Expr.height]
  exact fun tree hmem => (h.sized tree (List.mem_reverse.mp hmem)).height

theorem closeCall_goesOn (call : Call) : (Control.closeCall call).GoesOn tokens := by
  intro here stack pos nesting hhere h
  have hsound : call.Sound tokens := h.control
  simp only [step, hhere]
  refine leads_expect (fun fault => h.refuse rfl fault) fun hnext => ?_
  obtain ⟨hpass, hpos⟩ := h.pass hhere hnext
  unfold State.finishCall
  split
  · exact leads_grow (hpass.refuse rfl _)
      (fun tree htree => Safe.onward (hpass.goto (Nat.le_refl _) rfl htree) hpos)
      hsound.height_call
  · exact hpass.refuseAt rfl hsound.start _

theorem Call.Sound.add {call : Call} {tree : Tree} (h : call.Sound tokens) (htree : tree.Sized) :
    (call.add tree).Sound tokens where
  start := h.start
  height := by
    rw [Call.add, tallest_add, ← h.height]
  sized := List.forall_mem_cons.mpr ⟨htree, h.sized⟩

theorem give_goesOn (rule : Rule) (tree : Tree) : (Control.give rule tree).GoesOn tokens := by
  intro here stack pos nesting hhere h
  have hsized : tree.Sized := h.control
  simp only [step, hhere]
  cases stack with
  | nil =>
    simp only [State.giveTo]
    split
    · trivial
    · exact h.refuse rfl _
  | cons frame rest =>
    have hrank : rule.rank ≤ frame.awaits.rank := h.fits.1
    simp only [State.giveTo]
    cases frame with
    | first tier =>
      have hlower := tier.rank_operand
      have hlevel : 11 + 2 * rule.rank < 10 + 2 * (Rule.tier tier).rank := by
        dsimp only [Frame.awaits] at hrank
        omega
      exact Safe.upward (h.close rfl rfl rfl (Nat.le_refl _) (Nat.le_refl _) hsized) rfl hlevel
    | next tier left op =>
      have hleft : left.Sized := h.frames _ List.mem_cons_self
      have hlower := tier.rank_operand
      have hlevel : 11 + 2 * rule.rank < 10 + 2 * (Rule.tier tier).rank := by
        dsimp only [Frame.awaits] at hrank
        omega
      exact leads_grow
        ⟨h.close rfl rfl rfl (Nat.le_refl _) (Nat.zero_le _) trivial, .inl ⟨_, rfl⟩⟩
        (fun node hnode => Safe.upward
          (h.close rfl rfl rfl (Nat.le_refl _) (Nat.le_refl _) hnode) rfl hlevel)
        (by rw [Expr.height, hleft.height, hsized.height])
    | not =>
      -- Nested negations are closed one after another behind the same token, at the same level.
      have hlevel : 11 + 2 * rule.rank ≤ 25 := by
        have hlower : rule.rank ≤ 7 := hrank
        omega
      exact h.ascend rfl rfl rfl fun t hpos hclose => leads_grow
        ⟨hclose _ (Nat.zero_le _) rfl trivial, .inl ⟨_, rfl⟩⟩
        (fun node hnode => Safe.outward (hclose _ (Nat.le_refl _) rfl hnode) hpos hlevel rfl)
        (by rw [Expr.height, hsized.height])
    | sign op =>
      have hlevel : 11 + 2 * rule.rank ≤ 15 := by
        have hlower : rule.rank ≤ 2 := hrank
        omega
      exact h.ascend rfl rfl rfl fun t hpos hclose => leads_grow
        ⟨hclose _ (Nat.zero_le _) rfl trivial, .inl ⟨_, rfl⟩⟩
        (fun node hnode => Safe.outward (hclose _ (Nat.le_refl _) rfl hnode) hpos hlevel rfl)
        (by rw [Expr.height, hsized.height])
    | steps =>
      have hlevel : 11 + 2 * rule.rank < 12 := by
        have hlower : rule.rank ≤ 0 := hrank
        omega
      exact Safe.upward (h.close rfl rfl rfl (Nat.le_refl _) (Nat.le_refl _) hsized) rfl hlevel
    | group =>
      have hlevel : 11 + 2 * rule.rank < 28 := by
        have hlower : rule.rank ≤ 8 := hrank
        omega
      exact h.ascend rfl rfl rfl fun t hpos hclose =>
        Safe.upward (hclose _ (Nat.le_refl _) rfl hsized) hpos hlevel
    | argument call =>
      have hcall : call.Sound tokens := h.frames _ List.mem_cons_self
      have hlevel : 11 + 2 * rule.rank < 28 := by
        have hlower : rule.rank ≤ 8 := hrank
        omega
      exact Safe.upward (h.close rfl rfl rfl (Nat.le_refl _) (Nat.le_refl _) (hcall.add hsized)) rfl
        hlevel

/-- **A step from a safe state is safe.** -/
theorem Safe.step {s : State} (h : Safe tokens s) : (step tokens s).Safe tokens s := by
  obtain ⟨control, stack, pos, nesting⟩ := s
  have hhere := Tokens.skip?_eq_some.mpr ⟨h.pos_le, rfl⟩
  cases control with
  | start =>
    simp only [Descent.step, hhere]
    split
    · exact h.refuse rfl _
    · exact Safe.upward (h.goto (Nat.le_refl _) rfl trivial) rfl (by decide : 0 < 1)
  | read rule => exact read_goesOn rule hhere h
  | word name mark => exact word_goesOn name mark hhere h
  | chain tier left => exact chain_goesOn tier left hhere h
  | steps operand => exact steps_goesOn operand hhere h
  | arguments call => exact arguments_goesOn call hhere h
  | closeGroup inner => exact closeGroup_goesOn inner hhere h
  | closeCall call => exact closeCall_goesOn call hhere h
  | give rule tree => exact give_goesOn rule tree hhere h
  | refuse fault =>
    simp only [Descent.step, hhere]
    trivial

/-! ### Runs -/

variable {s t : State}

theorem safe_initial : Safe tokens initial where
  pos_le := Nat.zero_le _
  nesting_eq := rfl
  nesting_le := Nat.zero_le _
  control := trivial
  frames := nofun
  fits := trivial

theorem Safe.leads (h : Safe tokens s) (hstep : Step tokens s t) : Leads tokens s t := by
  have hnext := h.step
  rw [hstep] at hnext
  exact hnext

theorem Safe.reaches (h : Safe tokens s) (hsteps : Relation.ReflTransGen (Step tokens) s t) :
    Safe tokens t := by
  induction hsteps with
  | refl => exact h
  | tail _ hstep ih => exact (ih.leads hstep).safe

/-- **Every state of a run is safe.** -/
theorem Reached.safe (h : Reached tokens s) : Safe tokens s := safe_initial.reaches h

theorem Safe.ne_crash (h : Safe tokens s) : Descent.step tokens s ≠ .crash := by
  intro hcrash
  have hnext := h.step
  rw [hcrash] at hnext
  exact hnext

/-- A formula that is refused is not read any further. -/
theorem not_step_of_refuse {fault : SyntaxFault} (hs : s.control = .refuse fault) :
    ¬Step tokens s t := by
  intro hstep
  rw [Step, Descent.step, hs] at hstep
  split at hstep
  · cases hstep
  · cases hstep

theorem ascend_ne_stop {rest : List Frame} {go : State → State}
    {outcome : Except FormulaError Expr} : s.ascend rest go ≠ .stop outcome := by
  intro h
  unfold State.ascend at h
  split at h <;> cases h

/-- A tree that is given is accepted, or it is refused in the next step. -/
theorem giveTo_ne_error {here : Tokens} {tree : Tree} {error : FormulaError}
    {stack : List Frame} :
    s.giveTo here tree stack ≠ .stop (.error error) := by
  intro h
  cases stack with
  | nil =>
    simp only [State.giveTo] at h
    split at h <;> cases h
  | cons frame rest =>
    cases frame with
    | not | sign _ | group =>
      simp only [State.giveTo] at h
      exact ascend_ne_stop h
    | first _ | next _ _ _ | steps | argument _ => cases h

/-- The run stops with an error only where the formula is refused, at a token or at the end. -/
theorem fail_of_stop {error : FormulaError} (h : Descent.step tokens s = .stop (.error error)) :
    ∃ here fault, tokens.skip? s.pos = some here ∧ error = .malformed here.offset fault := by
  obtain ⟨control, stack, pos, nesting⟩ := s
  unfold Descent.step at h
  split at h
  · cases h
  · rename_i here hhere
    cases control with
    | refuse fault =>
      obtain rfl := Except.error.inj (Progress.stop.inj h)
      exact ⟨here, fault, hhere, rfl⟩
    | chain tier left =>
      dsimp only at h
      split at h <;> cases h
    | steps operand =>
      dsimp only at h
      split at h <;> cases h
    | arguments call =>
      dsimp only at h
      split at h
      · cases h
      · exact absurd h ascend_ne_stop
    | give rule tree => exact absurd h giveTo_ne_error
    | start | read _ | word _ _ | closeGroup _ | closeCall _ => cases h

/-- Any number of steps lead onward, unless the formula is refused in the end. -/
theorem Safe.before (h : Safe tokens s) (hsteps : Relation.TransGen (Step tokens) s t) :
    (∃ fault, t.control = .refuse fault) ∨ s.Before t := by
  induction hsteps with
  | single hstep => exact (h.leads hstep).forward
  | tail hsteps hstep ih =>
    obtain ⟨fault, hrefuse⟩ | hfirst := ih
    · exact absurd hstep (not_step_of_refuse hrefuse)
    · exact ((h.reaches hsteps.to_reflTransGen).leads hstep).forward.imp_right hfirst.trans

/-- **Between two visits of one place a token is passed.** -/
theorem Safe.pos_lt (h : Safe tokens s) (hsteps : Relation.TransGen (Step tokens) s t)
    {place : Place} (hs : s.control.place = some place) (ht : t.control.place = some place) :
    s.pos < t.pos := by
  obtain ⟨fault, hrefuse⟩ | hpos | ⟨-, hlevel | ⟨-, hplace⟩⟩ := h.before hsteps
  · rw [hrefuse] at ht
    cases ht
  · exact hpos
  · -- The levels only rise, but a place has one level.
    exact absurd (Control.level_eq_of_place hs ht) (Nat.ne_of_lt hlevel)
  · rw [hplace] at ht
    cases ht

/-- Every tree of a safe state tells its height and is no higher than allowed. -/
theorem Safe.sized (h : Safe tokens s) : ∀ tree ∈ s.trees, tree.Sized := by
  intro tree hmem
  obtain hmem | hmem := List.mem_append.mp hmem
  · exact h.control.trees tree hmem
  · obtain ⟨frame, hframe, hmem⟩ := List.mem_flatMap.mp hmem
    exact (h.frames frame hframe).trees tree hmem

end Steps
end Descent
end Gridcalc.Formula
