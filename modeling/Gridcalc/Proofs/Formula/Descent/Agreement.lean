import Gridcalc.Proofs.Formula.Descent.Safety

/-! # The descent reads what the readers read

Whatever waits for a rule, the machine that reads the rule does what the reader of the rule does
(`reads`): where the reader returns a tree and the tokens behind it, the machine gives the tree at
the position of these tokens, to the readers that waited before and with as many constructs open;
where the reader refuses, the machine comes to its end with the same error.

The readers call each other at most as deep as there is room for, so the proof goes by the room that
is left; with all the constructs that are open it makes up the limit.
-/
namespace Gridcalc.Formula.Descent

/-- From a state the run comes to its end with a certain outcome. -/
def Ends (tokens : Tokens) (s : State) (outcome : Except FormulaError Expr) : Prop :=
  ∃ t, Relation.ReflTransGen (Step tokens) s t ∧ step tokens t = .stop outcome

theorem Ends.of_steps {tokens : Tokens} {s t : State} {outcome : Except FormulaError Expr}
    (hsteps : Relation.ReflTransGen (Step tokens) s t) (h : Ends tokens t outcome) :
    Ends tokens s outcome := by
  obtain ⟨last, hrest, hstop⟩ := h
  exact ⟨last, hsteps.trans hrest, hstop⟩

theorem Ends.of_step {tokens : Tokens} {s t : State} {outcome : Except FormulaError Expr}
    (hstep : Step tokens s t) (h : Ends tokens t outcome) : Ends tokens s outcome :=
  .of_steps (.single hstep) h

/-- **From a state the machine answers the readers that wait** as a reader does. -/
def Answers (tokens : Tokens) (stack : List Frame) (nesting : Nat) (s : State) :
    Except FormulaError (Tree × Tokens) → Prop
  | .ok (tree, rest) => ∃ rule pos, tokens.skip? pos = some rest ∧
      Relation.ReflTransGen (Step tokens) s ⟨.give rule tree, stack, pos, nesting⟩
  | .error error => Ends tokens s (.error error)

section Answers
variable {tokens here rest : Tokens} {stack waiting : List Frame} {nesting inner pos : Nat}
  {s t : State} {answer : Except FormulaError (Tree × Tokens)} {token : Token}

theorem Answers.of_steps (hsteps : Relation.ReflTransGen (Step tokens) s t)
    (h : Answers tokens stack nesting t answer) : Answers tokens stack nesting s answer := by
  cases answer with
  | ok result =>
    obtain ⟨rule, pos, hpos, hrest⟩ := h
    exact ⟨rule, pos, hpos, hsteps.trans hrest⟩
  | error error => exact Ends.of_steps hsteps h

theorem Answers.of_step (hstep : Step tokens s t) (h : Answers tokens stack nesting t answer) :
    Answers tokens stack nesting s answer :=
  .of_steps (.single hstep) h

/-- One reader after another: what the second one does, it does with the tree of the first. -/
theorem Answers.bind {first : Except FormulaError (Tree × Tokens)}
    {second : Tree × Tokens → Except FormulaError (Tree × Tokens)}
    (hfirst : Answers tokens waiting inner s first)
    (hsecond : ∀ {rule : Rule} {tree : Tree} {rest : Tokens} {pos : Nat},
      first = .ok (tree, rest) → tokens.skip? pos = some rest →
      Answers tokens stack nesting ⟨.give rule tree, waiting, pos, inner⟩ (second (tree, rest))) :
    Answers tokens stack nesting s (first >>= second) := by
  cases first with
  | ok result =>
    obtain ⟨rule, pos, hpos, hsteps⟩ := hfirst
    exact (hsecond rfl hpos).of_steps hsteps
  | error error => exact hfirst

/-- What was read is given without another step. -/
theorem answers_give {rule : Rule} {tree : Tree} (hhere : tokens.skip? pos = some here) :
    Answers tokens stack nesting ⟨.give rule tree, stack, pos, nesting⟩ (.ok (tree, here)) :=
  ⟨rule, pos, hhere, .refl⟩

theorem ends_refuseAt {fault : SyntaxFault} (hhere : tokens.skip? pos = some here) :
    Ends tokens (s.refuseAt pos fault) (here.fail fault) :=
  ⟨_, .refl, by simp only [step, State.refuseAt, hhere]⟩

theorem answers_refuseAt {fault : SyntaxFault} (hhere : tokens.skip? pos = some here) :
    Answers tokens stack nesting (s.refuseAt pos fault) (here.fail fault) :=
  ends_refuseAt hhere

theorem answers_refuse {fault : SyntaxFault} (hhere : tokens.skip? s.pos = some here) :
    Answers tokens stack nesting (s.goto (.refuse fault)) (here.fail fault) :=
  answers_refuseAt hhere

theorem skip?_advance (hhere : tokens.skip? pos = some here) (hnext : here.next? = some token) :
    tokens.skip? (pos + 1) = some here.advance := by
  obtain ⟨-, rfl⟩ := Tokens.skip?_eq_some.mp hhere
  refine Tokens.skip?_eq_some.mpr ⟨pos_lt_of_next hhere hnext, ?_⟩
  simp [Tokens.advance]

theorem length_le_of_skip? (hhere : tokens.skip? pos = some here) :
    here.ahead.length ≤ tokens.ahead.length := by
  obtain ⟨-, rfl⟩ := Tokens.skip?_eq_some.mp hhere
  simp

theorem answers_grow {expr : Expr} {height : Nat} {use : Tree → Control}
    {answer : Tree → Except FormulaError (Tree × Tokens)}
    (hhere : tokens.skip? s.pos = some here)
    (huse : ∀ tree, Answers tokens stack nesting (s.goto (use tree)) (answer tree)) :
    Answers tokens stack nesting (s.grow expr height use) (here.grow expr height >>= answer) := by
  unfold State.grow Tokens.grow
  split
  · exact answers_refuse hhere
  · exact huse _

theorem answers_expect {wanted : Symbol} {go : State → State}
    {answer : Tokens → Except FormulaError (Tree × Tokens)}
    (hhere : tokens.skip? s.pos = some here)
    (hgo : tokens.skip? (s.pos + 1) = some here.advance →
      Answers tokens stack nesting (go { s with pos := s.pos + 1 }) (answer here.advance)) :
    Answers tokens stack nesting (s.expect here wanted go) (here.expect wanted >>= answer) := by
  unfold State.expect Tokens.expect
  split
  · rename_i hnext
    rw [pass_of_next hnext]
    exact hgo (skip?_advance hhere hnext)
  · exact answers_refuse hhere

/-- A construct is opened as long as there is room for it. -/
theorem answers_descend {frame : Frame} {rule : Rule} {size room : Nat}
    {answer : Levels → Except FormulaError (Tree × Tokens)}
    (hhere : tokens.skip? s.pos = some here) (hnext : here.next? = some token)
    (hroom : s.nesting + room = maxNesting)
    (hdeep : ∀ fewer, room = fewer + 1 → tokens.skip? (s.pos + 1) = some here.advance →
      Answers tokens stack nesting ⟨.read rule, frame :: s.stack, s.pos + 1, s.nesting + 1⟩
        (answer (innerLevels size fewer))) :
    Answers tokens stack nesting (s.descend here frame rule)
      (descend (levels? size room) here >>= answer) := by
  unfold State.descend
  cases room with
  | zero =>
    rw [if_pos (Nat.le_of_eq hroom.symm : maxNesting ≤ s.nesting)]
    exact answers_refuse hhere
  | succ fewer =>
    rw [if_neg (by omega), pass_of_next hnext]
    exact hdeep fewer rfl (skip?_advance hhere hnext)

end Answers

/-! ### Readers -/

/-- The machine reads a rule as its reader does, with a certain room left. -/
def Reads (tokens : Tokens) (room : Nat) (rule : Rule) : Prop :=
  ∀ ⦃stack : List Frame⦄ ⦃pos nesting : Nat⦄ ⦃here : Tokens⦄, tokens.skip? pos = some here →
    nesting + room = maxNesting → Answers tokens stack nesting ⟨.read rule, stack, pos, nesting⟩
      (rule.reader tokens.ahead.length (levels? tokens.ahead.length room) here)

section Readers
variable {tokens here : Tokens} {stack : List Frame} {pos nesting room : Nat} {tier : Tier}

/-- What is left behind a rule that was read is shorter. -/
theorem length_of_reader {rule : Rule} {tree : Tree} {rest : Tokens}
    (hhere : tokens.skip? pos = some here)
    (hread : rule.reader tokens.ahead.length (levels? tokens.ahead.length room) here =
      .ok (tree, rest)) : rest.ahead.length + 1 ≤ here.ahead.length := by
  obtain ⟨-, n, -, htakes⟩ :=
    reader_follows _ _ rule here tree rest (length_le_of_skip? hhere) hread
  exact htakes.length_ahead

theorem Reads.of_advance {rule : Rule} {token : Token} (h : Reads tokens room rule)
    (hhere : tokens.skip? pos = some here) (hnext : here.next? = some token)
    (hroom : nesting + room = maxNesting) :
    Answers tokens stack nesting ⟨.read rule, stack, pos + 1, nesting⟩
      (rule.reader tokens.ahead.length (levels? tokens.ahead.length room) here.advance) :=
  h (skip?_advance hhere hnext) hroom

theorem chain_stops {left : Tree} (hhere : tokens.skip? pos = some here)
    (hstop : here.next?.bind tier.op? = none) :
    Answers tokens stack nesting ⟨.chain tier left, stack, pos, nesting⟩ (.ok (left, here)) := by
  have hstep : Step tokens ⟨.chain tier left, stack, pos, nesting⟩
      ⟨.give (.tier tier) left, stack, pos, nesting⟩ := by
    simp only [Step, step, hhere, hstop]
    rfl
  exact .of_step hstep (answers_give hhere)

/-- More operands of a tier. -/
theorem chainFrom_answers (hop : Reads tokens room tier.operand)
    (hroom : nesting + room = maxNesting) (rounds : Nat) {left : Tree} {pos : Nat} {here : Tokens}
    (hhere : tokens.skip? pos = some here) (hlength : here.ahead.length ≤ rounds) :
    Answers tokens stack nesting ⟨.chain tier left, stack, pos, nesting⟩
      (chainFrom tier.op? (tier.operand.reader tokens.ahead.length
        (levels? tokens.ahead.length room)) rounds left here) := by
  induction rounds generalizing left pos here with
  | zero => exact chain_stops hhere (by rw [Tokens.next?_eq, Tokens.kinds_eq_nil hlength]; rfl)
  | succ rounds ih =>
    rw [chainFrom]
    split
    · rename_i hstop
      exact chain_stops hhere hstop
    · rename_i op hnext
      obtain ⟨token, hkinds, -⟩ := Tokens.exists_of_bind_next? hnext
      have htoken := (Tokens.next?_of_kinds hkinds).1
      have hadvance := Tokens.length_advance hkinds
      have hstep : Step tokens ⟨.chain tier left, stack, pos, nesting⟩
          ⟨.read tier.operand, .next tier left op :: stack, pos + 1, nesting⟩ := by
        simp only [Step, step, hhere, hnext, pass_of_next htoken]
        rfl
      refine .of_step hstep (.bind (hop.of_advance hhere htoken hroom) ?_)
      intro rule right rest behind hread hrest
      have hshorter := length_of_reader (skip?_advance hhere htoken) hread
      have hgive : Step tokens ⟨.give rule right, .next tier left op :: stack, behind, nesting⟩
          (State.grow ⟨.give rule right, stack, behind, nesting⟩ (.binary op left.expr right.expr)
            (max left.height right.height) (.chain tier)) := by
        simp only [Step, step, hrest]
        rfl
      exact .of_step hgive (answers_grow hrest fun node => ih hrest (by omega))

theorem reads_tier (hop : Reads tokens room tier.operand) : Reads tokens room (.tier tier) := by
  intro stack pos nesting here hhere hroom
  rw [reader_tier]
  have hstep : Step tokens ⟨.read (.tier tier), stack, pos, nesting⟩
      ⟨.read tier.operand, .first tier :: stack, pos, nesting⟩ := by
    simp only [Step, step, hhere]
    rfl
  refine .of_step hstep (.bind (hop hhere hroom) ?_)
  intro rule left rest behind _ hrest
  have hgive : Step tokens ⟨.give rule left, .first tier :: stack, behind, nesting⟩
      ⟨.chain tier left, stack, behind, nesting⟩ := by
    simp only [Step, step, hrest]
    rfl
  exact .of_step hgive (chainFrom_answers hop hroom _ hrest (length_le_of_skip? hrest))

theorem steps_stops {operand : Tree} (hhere : tokens.skip? pos = some here)
    (hstop : here.next?.bind stepOp? = none) :
    Answers tokens stack nesting ⟨.steps operand, stack, pos, nesting⟩ (.ok (operand, here)) := by
  have hstep : Step tokens ⟨.steps operand, stack, pos, nesting⟩
      ⟨.give .stepped operand, stack, pos, nesting⟩ := by
    simp only [Step, step, hhere, hstop]
    rfl
  exact .of_step hstep (answers_give hhere)

/-- More steps behind an operand. -/
theorem stepsFrom_answers (rounds : Nat) {operand : Tree} {pos : Nat} {here : Tokens}
    (hhere : tokens.skip? pos = some here) (hlength : here.ahead.length ≤ rounds) :
    Answers tokens stack nesting ⟨.steps operand, stack, pos, nesting⟩
      (stepsFrom rounds operand here) := by
  induction rounds generalizing operand pos here with
  | zero => exact steps_stops hhere (by rw [Tokens.next?_eq, Tokens.kinds_eq_nil hlength]; rfl)
  | succ rounds ih =>
    rw [stepsFrom]
    split
    · rename_i hstop
      exact steps_stops hhere hstop
    · rename_i op hnext
      obtain ⟨token, hkinds, -⟩ := Tokens.exists_of_bind_next? hnext
      have htoken := (Tokens.next?_of_kinds hkinds).1
      have hadvance := Tokens.length_advance hkinds
      have hstep : Step tokens ⟨.steps operand, stack, pos, nesting⟩
          (State.grow ⟨.steps operand, stack, pos + 1, nesting⟩ (.unary op operand.expr)
            operand.height .steps) := by
        simp only [Step, step, hhere, hnext, pass_of_next htoken]
      have hbehind := skip?_advance hhere htoken
      exact .of_step hstep (answers_grow hbehind fun node => ih hbehind (by omega))

theorem reads_stepped (hprimary : Reads tokens room .primary) : Reads tokens room .stepped := by
  intro stack pos nesting here hhere hroom
  have hstep : Step tokens ⟨.read .stepped, stack, pos, nesting⟩
      ⟨.read .primary, .steps :: stack, pos, nesting⟩ := by
    simp only [Step, step, hhere]
    rfl
  refine .of_step hstep (.bind (hprimary hhere hroom) ?_)
  intro rule operand rest behind _ hrest
  have hgive : Step tokens ⟨.give rule operand, .steps :: stack, behind, nesting⟩
      ⟨.steps operand, stack, behind, nesting⟩ := by
    simp only [Step, step, hrest]
    rfl
  exact .of_step hgive (stepsFrom_answers _ hrest (length_le_of_skip? hrest))

/-- The parenthesis behind the last argument, and the number of the arguments. -/
theorem closeCall_answers {name : Tokens} {call : Call}
    (hheight : call.height = tallest call.read.reverse)
    (hstart : tokens.skip? call.start = some name) (hhere : tokens.skip? pos = some here) :
    Answers tokens stack nesting ⟨.closeCall call, stack, pos, nesting⟩ (do
      let rest ← here.expect .closeParen
      if call.function.accepts call.read.reverse.length then do
        let node ← rest.grow (.call call.function (call.read.reverse.map (·.expr)))
          (tallest call.read.reverse)
        return (node, rest)
      else name.fail (.wrongArity call.function call.read.reverse.length)) := by
  have hstep : Step tokens ⟨.closeCall call, stack, pos, nesting⟩
      (State.expect here ⟨.closeCall call, stack, pos, nesting⟩ .closeParen
        (·.finishCall call)) := by
    simp only [Step, step, hhere]
  refine .of_step hstep (answers_expect hhere fun hbehind => ?_)
  rw [List.length_reverse, ← hheight, State.finishCall]
  split
  · exact answers_grow hbehind fun node => answers_give hbehind
  · exact answers_refuseAt hstart

theorem argumentsFrom_answers {start : Nat} {function : Builtin}
    {second : List Tree × Tokens → Except FormulaError (Tree × Tokens)}
    (hlogical : Reads tokens room (.tier .logical)) (hroom : nesting + 1 + room = maxNesting)
    (hsecond : ∀ {read : List Tree} {height pos : Nat} {rest : Tokens},
      height = tallest read.reverse →
      tokens.skip? pos = some rest → Answers tokens stack nesting
        ⟨.closeCall ⟨start, function, read, height⟩, stack, pos, nesting⟩
        (second (read.reverse, rest)))
    (rounds : Nat) {read : List Tree} {height pos : Nat} {here : Tokens}
    (hheight : height = tallest read.reverse)
    (hhere : tokens.skip? pos = some here) (hlength : here.ahead.length ≤ rounds) :
    Answers tokens stack nesting
      ⟨.arguments ⟨start, function, read, height⟩, stack, pos, nesting + 1⟩
      (argumentsFrom ((Rule.tier .logical).reader tokens.ahead.length
        (levels? tokens.ahead.length room)) rounds read here >>= second) := by
  have hstop (call : Call) {pos : Nat} {here : Tokens} (hhere : tokens.skip? pos = some here)
      (hnext : here.next? ≠ some (.symbol .comma)) : Step tokens
        ⟨.arguments call, stack, pos, nesting + 1⟩ ⟨.closeCall call, stack, pos, nesting⟩ := by
    simp only [Step, step, hhere, if_neg hnext]
    rfl
  induction rounds generalizing read height pos here with
  | zero =>
    have hend : here.next? ≠ some (.symbol .comma) := by
      rw [Tokens.next?_eq, Tokens.kinds_eq_nil hlength]
      exact (Option.some_ne_none _).symm
    exact .of_step (hstop _ hhere hend) (hsecond hheight hhere)
  | succ rounds ih =>
    rw [argumentsFrom]
    split
    · rename_i hcomma
      have hadvance := Tokens.length_advance (Tokens.kinds_of_next? hcomma)
      rw [bind_assoc]
      have hstep : Step tokens
          ⟨.arguments ⟨start, function, read, height⟩, stack, pos, nesting + 1⟩
          ⟨.read (.tier .logical), .argument ⟨start, function, read, height⟩ :: stack, pos + 1,
            nesting + 1⟩ := by
        simp only [Step, step, hhere, if_pos hcomma, pass_of_next hcomma]
        rfl
      refine .of_step hstep (.bind (hlogical.of_advance hhere hcomma hroom) ?_)
      intro rule tree rest behind hread hrest
      have hshorter := length_of_reader (skip?_advance hhere hcomma) hread
      have hgive : Step tokens ⟨.give rule tree,
            .argument ⟨start, function, read, height⟩ :: stack, behind, nesting + 1⟩
          ⟨.arguments ⟨start, function, tree :: read, max height tree.height⟩, stack, behind,
            nesting + 1⟩ := by
        simp only [Step, step, hrest]
        rfl
      exact .of_step hgive (ih (by rw [hheight, tallest_add]) hrest (by omega))
    · rename_i hend
      exact .of_step (hstop _ hhere hend) (hsecond hheight hhere)

section Depth
variable (hdeep : ∀ fewer, room = fewer + 1 → ∀ rule, Reads tokens fewer rule)
include hdeep

/-- An operator in front of an operand opens a construct, which is closed behind the operand. -/
theorem unary_answers {read rule : Rule} {frame : Frame} {op : UnaryOp} {token : Token}
    (operand : Levels → Reader Tree)
    (hoperand : ∀ fewer, operand (innerLevels tokens.ahead.length fewer) =
      rule.reader tokens.ahead.length (levels? tokens.ahead.length fewer))
    (hclose : ∀ {rule : Rule} {tree : Tree} {pos : Nat} {rest : Tokens},
      tokens.skip? pos = some rest →
      Step tokens ⟨.give rule tree, frame :: stack, pos, nesting + 1⟩
        (State.grow ⟨.give rule tree, stack, pos, nesting⟩ (.unary op tree.expr) tree.height
          (.give read)))
    (hhere : tokens.skip? pos = some here) (hnext : here.next? = some token)
    (hroom : nesting + room = maxNesting) :
    Answers tokens stack nesting (State.descend here ⟨.read read, stack, pos, nesting⟩ frame rule)
      (descend (levels? tokens.ahead.length room) here >>= fun levels => do
        let (tree, rest) ← operand levels here.advance
        let node ← rest.grow (.unary op tree.expr) tree.height
        return (node, rest)) := by
  refine answers_descend hhere hnext hroom fun fewer hfewer hbehind => ?_
  subst hfewer
  rw [hoperand]
  refine .bind (hdeep fewer rfl rule hbehind (by dsimp only; omega)) ?_
  intro rule tree rest behind _ hrest
  exact .of_step (hclose hrest) (answers_grow hrest fun node => answers_give hrest)

theorem reads_negation (hcomparison : Reads tokens room (.tier .comparison)) :
    Reads tokens room .negation := by
  intro stack pos nesting here hhere hroom
  rw [Rule.reader, negation]
  split
  · rename_i hnext
    have hstep : Step tokens ⟨.read .negation, stack, pos, nesting⟩
        (State.descend here ⟨.read .negation, stack, pos, nesting⟩ .not .negation) := by
      simp only [Step, step, hhere, State.readRule, if_pos hnext]
    refine .of_step hstep
      (unary_answers hdeep Levels.negation (fun _ => rfl) ?_ hhere hnext hroom)
    intro rule tree pos rest hrest
    simp only [Step, step, hrest]
    rfl
  · rename_i hnext
    have hstep : Step tokens ⟨.read .negation, stack, pos, nesting⟩
        ⟨.read (.tier .comparison), stack, pos, nesting⟩ := by
      simp only [Step, step, hhere, State.readRule, if_neg hnext]
      rfl
    exact .of_step hstep (hcomparison hhere hroom)

theorem reads_signed (hstepped : Reads tokens room .stepped) : Reads tokens room .signed := by
  intro stack pos nesting here hhere hroom
  rw [Rule.reader, signed]
  split
  · rename_i op hsign
    obtain ⟨token, hnext, -⟩ := Option.bind_eq_some_iff.mp hsign
    have hstep : Step tokens ⟨.read .signed, stack, pos, nesting⟩
        (State.descend here ⟨.read .signed, stack, pos, nesting⟩ (.sign op) .signed) := by
      simp only [Step, step, hhere, State.readRule, hsign]
    refine .of_step hstep
      (unary_answers hdeep Levels.signed (fun _ => rfl) ?_ hhere hnext hroom)
    intro rule tree pos rest hrest
    simp only [Step, step, hrest]
    rfl
  · rename_i hsign
    have hstep : Step tokens ⟨.read .signed, stack, pos, nesting⟩
        ⟨.read .stepped, stack, pos, nesting⟩ := by
      simp only [Step, step, hhere, State.readRule, hsign]
      rfl
    exact .of_step hstep (hstepped hhere hroom)

theorem word_answers {name : String} {word : Tokens} {start : Nat}
    (hstart : tokens.skip? start = some word) (hname : word.next? = some (.name name))
    (hroom : nesting + room = maxNesting) :
    Answers tokens stack nesting ⟨.word name start, stack, start + 1, nesting⟩
      (call tokens.ahead.length (levels? tokens.ahead.length room) name word) := by
  have hhere := skip?_advance hstart hname
  have hstep : Step tokens ⟨.word name start, stack, start + 1, nesting⟩
      (State.readWord word.advance ⟨.word name start, stack, start + 1, nesting⟩ name start) := by
    simp only [Step, step, hhere]
  refine .of_step hstep ?_
  unfold State.readWord call
  dsimp only
  split
  · rename_i hopen
    cases Builtin.ofName? name with
    | none => exact answers_refuseAt hstart
    | some function =>
      refine answers_descend hhere hopen hroom fun fewer hfewer hbehind => ?_
      subst hfewer
      have hlogical := hdeep fewer rfl (.tier .logical)
      have hinside : nesting + 1 + fewer = maxNesting := by omega
      refine .bind (hlogical hbehind hinside) ?_
      intro rule first rest behind _ hrest
      have hgive : Step tokens
          ⟨.give rule first, .argument ⟨start, function, [], 0⟩ :: stack, behind, nesting + 1⟩
          ⟨.arguments ⟨start, function, [first], max 0 first.height⟩, stack, behind,
            nesting + 1⟩ := by
        simp only [Step, step, hrest]
        rfl
      exact .of_step hgive (argumentsFrom_answers hlogical hinside
        (fun hheight hclose => closeCall_answers hheight hstart hclose) _ rfl hrest
        (length_le_of_skip? hrest))
  · exact answers_refuseAt hstart

theorem group_answers {control : Control} (hhere : tokens.skip? pos = some here)
    (hopen : here.next? = some (.symbol .openParen)) (hroom : nesting + room = maxNesting) :
    Answers tokens stack nesting
      (State.descend here ⟨control, stack, pos, nesting⟩ .group (.tier .logical)) (do
        let levels ← descend (levels? tokens.ahead.length room) here
        let (inner, rest) ← levels.logical here.advance
        let rest ← rest.expect .closeParen
        let node ← rest.grow (.group inner.expr) inner.height
        return (node, rest)) := by
  refine answers_descend hhere hopen hroom fun fewer hfewer hbehind => ?_
  subst hfewer
  refine .bind (hdeep fewer rfl (.tier .logical) hbehind (by dsimp only; omega)) ?_
  intro rule inner rest behind _ hrest
  have hgive : Step tokens ⟨.give rule inner, .group :: stack, behind, nesting + 1⟩
      ⟨.closeGroup inner, stack, behind, nesting⟩ := by
    simp only [Step, step, hrest]
    rfl
  have hclose : Step tokens ⟨.closeGroup inner, stack, behind, nesting⟩
      (State.expect rest ⟨.closeGroup inner, stack, behind, nesting⟩ .closeParen
        (·.grow (.group inner.expr) inner.height (.give .primary))) := by
    simp only [Step, step, hrest]
  refine .of_step hgive (.of_step hclose (answers_expect hrest fun hend => ?_))
  exact answers_grow hend fun node => answers_give hend

theorem reads_primary : Reads tokens room .primary := by
  intro stack pos nesting here hhere hroom
  have hstep : Step tokens ⟨.read .primary, stack, pos, nesting⟩
      (State.readPrimary here ⟨.read .primary, stack, pos, nesting⟩) := by
    simp only [Step, step, hhere, State.readRule]
  have hleaf {token : Token} {expr : Expr} (hnext : here.next? = some token) :
      Answers tokens stack nesting
        ((State.pass here ⟨.read .primary, stack, pos, nesting⟩).goto (.give .primary (.leaf expr)))
        (.ok (.leaf expr, here.advance)) := by
    rw [pass_of_next hnext]
    exact answers_give (skip?_advance hhere hnext)
  refine .of_step hstep ?_
  rw [Rule.reader]
  unfold State.readPrimary primary
  cases hnext : here.next? with
  | none => exact answers_refuse hhere
  | some token =>
    cases token with
    | number value => exact hleaf hnext
    | text content => exact hleaf hnext
    | cell address =>
      dsimp only
      cases CellRef.canonical address with
      | ok canonical => exact hleaf hnext
      | error error => exact answers_refuse hhere
    | name name =>
      rw [pass_of_next hnext]
      exact word_answers hdeep hhere hnext hroom
    | keyword keyword => exact answers_refuse hhere
    | symbol symbol =>
      cases symbol with
      | openParen => exact group_answers hdeep hhere hnext hroom
      | _ => exact answers_refuse hhere

theorem reads_rule (rule : Rule) : Reads tokens room rule := by
  have hprimary : Reads tokens room .primary := reads_primary hdeep
  have hstepped := reads_stepped hprimary
  have hsigned := reads_signed hdeep hstepped
  have hpower : Reads tokens room (.tier .power) := reads_tier hsigned
  have hmultiplicative : Reads tokens room (.tier .multiplicative) := reads_tier hpower
  have hadditive : Reads tokens room (.tier .additive) := reads_tier hmultiplicative
  have hcomparison : Reads tokens room (.tier .comparison) := reads_tier hadditive
  have hnegation := reads_negation hdeep hcomparison
  cases rule with
  | tier tier =>
    cases tier with
    | logical => exact reads_tier hnegation
    | comparison => exact hcomparison
    | additive => exact hadditive
    | multiplicative => exact hmultiplicative
    | power => exact hpower
  | negation => exact hnegation
  | signed => exact hsigned
  | stepped => exact hstepped
  | primary => exact hprimary

end Depth

/-- **The machine reads every rule as its reader does,** with any room left. -/
theorem reads (room : Nat) : ∀ rule : Rule, Reads tokens room rule := by
  induction room with
  | zero => exact reads_rule nofun
  | succ room ih =>
    refine reads_rule fun fewer hfewer => ?_
    obtain rfl := Nat.succ.inj hfewer
    exact ih

end Readers

/-! ### Whole formulas -/

section Whole
variable {tokens rest : Tokens} {s : State} {pos : Nat}

/-- With nobody waiting, what is done behind a reader is done at the end of the run. -/
theorem Answers.ends {first : Except FormulaError (Tree × Tokens)}
    {last : Tree × Tokens → Except FormulaError Expr} (hfirst : Answers tokens [] 0 s first)
    (hlast : ∀ {rule : Rule} {tree : Tree} {rest : Tokens} {pos : Nat},
      tokens.skip? pos = some rest →
      Ends tokens ⟨.give rule tree, [], pos, 0⟩ (last (tree, rest))) :
    Ends tokens s (first >>= last) := by
  cases first with
  | ok result =>
    obtain ⟨rule, pos, hpos, hsteps⟩ := hfirst
    exact .of_steps hsteps (hlast hpos)
  | error error => exact hfirst

theorem ends_give {rule : Rule} {tree : Tree} (hrest : tokens.skip? pos = some rest) :
    Ends tokens ⟨.give rule tree, [], pos, 0⟩ (match rest.next? with
      | none => .ok tree.expr
      | some token => rest.fail (.trailing token)) := by
  split
  · rename_i hend
    exact ⟨_, .refl, by simp only [step, hrest, State.giveTo, hend]⟩
  · rename_i token hnext
    have hrefuse : Step tokens ⟨.give rule tree, [], pos, 0⟩
        ⟨.refuse (.trailing token), [], pos, 0⟩ := by
      simp only [Step, step, hrest, State.giveTo, hnext]
      rfl
    exact .of_step hrefuse (ends_refuseAt (s := ⟨.give rule tree, [], pos, 0⟩) hrest)

/-- **The run over some tokens comes to its end, with what they are read as.** -/
theorem ends_parseTokens (tokens : Tokens) : Ends tokens initial (parseTokens tokens) := by
  have hhere : tokens.skip? 0 = some tokens := Tokens.skip?_eq_some.mpr ⟨Nat.zero_le _, rfl⟩
  unfold parseTokens
  split
  · rename_i hempty
    have hstep : Step tokens initial (initial.goto (.refuse .emptyFormula)) := by
      simp only [Step, step, initial, hhere, if_pos hempty]
    exact .of_step hstep (ends_refuseAt hhere)
  · rename_i hsome
    have hstep : Step tokens initial ⟨.read (.tier .logical), [], 0, 0⟩ := by
      simp only [Step, step, initial, hhere, if_neg hsome]
      rfl
    have hreads : Answers tokens [] 0 ⟨.read (.tier .logical), [], 0, 0⟩
        (logical tokens.ahead.length (levels? tokens.ahead.length maxNesting) tokens) :=
      reads maxNesting (.tier .logical) hhere (Nat.zero_add _)
    exact .of_step hstep (hreads.ends fun hrest => ends_give hrest)

/-- There is only one run, so that its end is the end from every state of it. -/
theorem Reached.reaches_end {last : State} {outcome : Except FormulaError Expr}
    (hs : Reached tokens s) (hlast : Reached tokens last)
    (hstop : step tokens last = .stop outcome) :
    Relation.ReflTransGen (Step tokens) s last := by
  have hunique : Relator.RightUnique (Step tokens) := fun _ _ _ h h' =>
    Progress.next.inj (h.symm.trans h')
  obtain h | h := Relation.ReflTransGen.total_of_right_unique hunique hs hlast
  · exact h
  · obtain rfl | ⟨t, hstep, -⟩ := h.cases_head
    · exact .refl
    · cases hstep.symm.trans hstop

/-- **Reading a formula is safe, whether it is accepted or refused.**  A text whose tokens cannot be
read is refused at once.  Else the machine goes over the tokens.  In every state of its run the
position is that of a token or of the end, as many constructs are counted as are open, at most 100,
none is taken from a counter of zero, and each tree tells its height, which is at most 512.  Between
two visits of one rule or of one loop a token is passed.  The run has an end, which is reached from
each of its states, and its outcome is what the formula is read as. -/
theorem descent_safe (formula : String) :
    (∀ error, tokenize (body formula) = .error error →
      parse formula = .error (error.shift (base formula))) ∧
    ∀ tokens, tokenize (body formula) = .ok tokens →
      (∀ s, Reached tokens s → s.pos ≤ tokens.ahead.length ∧ s.nesting = s.opened ∧
        s.nesting ≤ 100 ∧ step tokens s ≠ .crash ∧
        ∀ tree ∈ s.trees, tree.height = tree.expr.height ∧ tree.height ≤ 512) ∧
      (∀ s t place, Reached tokens s → Relation.TransGen (Step tokens) s t →
        s.control.place = some place → t.control.place = some place → s.pos < t.pos) ∧
      ∃ last outcome, step tokens last = .stop outcome ∧
        (∀ s, Reached tokens s → Relation.ReflTransGen (Step tokens) s last) ∧
        parse formula = outcome.mapError (·.shift (base formula)) := by
  refine ⟨fun error herror => by rw [parse_eq, parseBody, herror]; rfl, fun tokens htokens => ?_⟩
  refine ⟨fun s hs => ?_, fun s t place hs hsteps => hs.safe.pos_lt hsteps, ?_⟩
  · have hsafe := hs.safe
    exact ⟨hsafe.pos_le, hsafe.nesting_eq, hsafe.nesting_le, hsafe.ne_crash,
      fun tree hmem => ⟨(hsafe.sized tree hmem).height, (hsafe.sized tree hmem).limit⟩⟩
  · obtain ⟨last, hlast, hstop⟩ := ends_parseTokens tokens
    refine ⟨last, parseTokens tokens, hstop, fun s hs => hs.reaches_end hlast hstop, ?_⟩
    rw [parse_eq, parseBody, htokens]
    rfl

/-- Where an operand is missing, the reader of negations is visited again behind the first one, with
the first one counted, and the text is refused at its end. -/
theorem openNegation_counted : ∃ tokens s t, tokenize (body "=not") = .ok tokens ∧
    Reached tokens s ∧ Step tokens s t ∧ s.control.place = t.control.place ∧ s.pos < t.pos ∧
    t.opened = 1 ∧ t.nesting = t.opened ∧
    parse "=not" = .error (.malformed 4 .unexpectedEnd) := by
  obtain ⟨-, hsafe⟩ := descent_safe "=not"
  have htokens : tokenize (body "=not") = .ok ⟨[⟨.keyword .not, 0⟩], 3⟩ := by decide +kernel
  obtain ⟨hstates, hplaces, -⟩ := hsafe _ htokens
  have hfirst : Reached ⟨[⟨.keyword .not, 0⟩], 3⟩ ⟨.read .negation, [.first .logical], 0, 0⟩ :=
    .tail (.single rfl) rfl
  have hagain : Step ⟨[⟨.keyword .not, 0⟩], 3⟩ ⟨.read .negation, [.first .logical], 0, 0⟩
      ⟨.read .negation, [.not, .first .logical], 1, 1⟩ := rfl
  obtain ⟨-, hcount, -⟩ := hstates _ (hfirst.tail hagain)
  have hpassed := hplaces _ _ _ hfirst (.single hagain) rfl rfl
  have hrefused : parse "=not" = .error (.malformed 4 .unexpectedEnd) := by
    rw [parse_eq, parseBody, htokens]
    rfl
  exact ⟨_, _, _, htokens, hfirst, hagain, rfl, hpassed, rfl, hcount, hrefused⟩

end Whole
end Gridcalc.Formula.Descent
