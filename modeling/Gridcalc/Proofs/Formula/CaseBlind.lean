import Gridcalc.Proofs.Formula.Recasing

/-! # Reading without case

A reader looks at symbols and keywords, at the tokens of operands, and at the names of functions,
which it knows in any case.  So on tokens that are equal but for the case of names, it gives the
same result and leaves tokens that are equal in this sense, or refuses both at the same place
(`Reader.Blind`).  What the error says may still show a name as it was written.

There is one lemma for each reader, in the order of their definitions.  The recursion of the grammar
is that of the levels (`blind_levels?`).
-/
namespace Gridcalc.Formula

namespace Agree
variable {α β : Type} {alike : α → α → Prop} {alike' : β → β → Prop}
  {x y : Except FormulaError α}

theorem bind {f g : α → Except FormulaError β} (h : Agree alike x y)
    (hrest : ∀ a b, alike a b → Agree alike' (f a) (g b)) : Agree alike' (x >>= f) (y >>= g) := by
  cases h with
  | ok hab => exact hrest _ _ hab
  | malformed position fault other => exact .malformed position fault other

theorem map {f : α → β} (h : Agree Eq x y) : Agree Eq (x.map f) (y.map f) := by
  cases h with
  | ok hab => exact .ok (congrArg f hab)
  | malformed position fault other => exact .malformed position fault other

theorem shift (bytes : Nat) (h : Agree alike x y) :
    Agree alike (x.mapError (·.shift bytes)) (y.mapError (·.shift bytes)) := by
  cases h with
  | ok hab => exact .ok hab
  | malformed position fault other => exact .malformed (position + bytes) fault other

end Agree

/-! ### Tokens -/

/-- Tokens that differ in case only are equal, or are names. -/
theorem Token.cases_of_lower_eq {token other : Token} (h : token.lower = other.lower) :
    token = other ∨ ∃ word word', token = .name word ∧ other = .name word' ∧
      lowerWord word = lowerWord word' := by
  cases token with
  | name word =>
    cases other with
    | name word' => exact Or.inr ⟨word, word', rfl, rfl, Token.name.inj h⟩
    | _ => cases h
  | _ =>
    cases other with
    | name _ => cases h
    | _ => exact Or.inl h

namespace Tokens
variable {tokens other : Tokens} {token : Token}

theorem Alike.advance (h : tokens.Alike other) : tokens.advance.Alike other.advance := by
  have hlower : ∀ t : Tokens, t.advance.lower = t.lower.advance := fun t => by
    simp [Tokens.advance, Tokens.lower, List.map_tail]
  rw [Alike, hlower, hlower, h]

theorem Alike.length (h : tokens.Alike other) : tokens.ahead.length = other.ahead.length := by
  have hlength := congrArg (·.ahead.length) h
  simpa [Tokens.lower] using hlength

theorem Alike.offset (h : tokens.Alike other) : tokens.offset = other.offset := by
  have hlower : ∀ t : Tokens, t.lower.offset = t.offset := fun t => by
    simp [Tokens.offset, Tokens.lower, Placed.lower, Function.comp_def]
  rw [← hlower, h, hlower]

theorem next?_lower (tokens : Tokens) : tokens.lower.next? = tokens.next?.map Token.lower := by
  simp [Tokens.next?, Tokens.lower, Placed.lower, Function.comp_def]

/-- **The next tokens are equal, or are names in different cases.** -/
theorem Alike.next? (h : tokens.Alike other) : tokens.next? = other.next? ∨
    ∃ word word', tokens.next? = some (.name word) ∧ other.next? = some (.name word') ∧
      lowerWord word = lowerWord word' := by
  have hnext := congrArg Tokens.next? h
  rw [next?_lower, next?_lower] at hnext
  cases htoken : tokens.next? with
  | none => exact Or.inl (Option.map_eq_none_iff.mp (by rw [← hnext, htoken]; rfl)).symm
  | some token =>
    rw [htoken] at hnext
    obtain ⟨token', htoken', hlower⟩ := Option.map_eq_some_iff.mp hnext.symm
    rw [htoken']
    obtain rfl | ⟨word, word', rfl, rfl, hword⟩ := Token.cases_of_lower_eq hlower.symm
    · exact Or.inl rfl
    · exact Or.inr ⟨word, word', rfl, rfl, hword⟩

/-- A token that is no name comes next in both or in neither. -/
theorem Alike.next?_eq_iff (h : tokens.Alike other) (token : Token)
    (htoken : ∀ word, token ≠ .name word) :
    other.next? = some token ↔ tokens.next? = some token := by
  obtain hsame | ⟨word, word', hnext, hnext', -⟩ := h.next?
  · rw [hsame]
  · rw [hnext, hnext']
    exact ⟨fun he => absurd (Option.some.inj he).symm (htoken word'),
      fun he => absurd (Option.some.inj he).symm (htoken word)⟩

theorem Alike.next?_eq_none_iff (h : tokens.Alike other) :
    other.next? = none ↔ tokens.next? = none := by
  obtain hsame | ⟨word, word', hnext, hnext', -⟩ := h.next?
  · rw [hsame]
  · simp [hnext, hnext']

/-- What no name is comes next in both or in neither. -/
theorem Alike.bind_next? {α : Type} (h : tokens.Alike other) (op? : Token → Option α)
    (hop : ∀ word, op? (.name word) = none) : other.next?.bind op? = tokens.next?.bind op? := by
  obtain hsame | ⟨word, word', hnext, hnext', -⟩ := h.next?
  · rw [hsame]
  · rw [hnext, hnext', Option.bind_some, Option.bind_some, hop, hop]

theorem Alike.fail {α : Type} {alike : α → α → Prop} (h : tokens.Alike other)
    (fault fault' : SyntaxFault) : Agree alike (tokens.fail fault) (other.fail fault') := by
  rw [Tokens.fail, Tokens.fail, h.offset]
  exact .malformed _ fault fault'

theorem Alike.expect (h : tokens.Alike other) (wanted : Symbol) :
    Agree Alike (tokens.expect wanted) (other.expect wanted) := by
  simp only [Tokens.expect, h.next?_eq_iff (.symbol wanted) (by simp)]
  split
  · exact .ok h.advance
  · exact h.fail _ _

theorem Alike.grow (h : tokens.Alike other) (expr : Expr) (height : Nat) :
    Agree Eq (tokens.grow expr height) (other.grow expr height) := by
  rw [Tokens.grow, Tokens.grow]
  split
  · exact h.fail _ _
  · exact .ok rfl

end Tokens

/-! ### Readers -/

/-- What was read is the same, and what is left is equal but for the case of names. -/
def SameRead {α : Type} (first second : α × Tokens) : Prop :=
  first.1 = second.1 ∧ first.2.Alike second.2

/-- **The reader does not see the case of names.** -/
def Reader.Blind {α : Type} (read : Reader α) : Prop :=
  ∀ {tokens other : Tokens}, tokens.Alike other → Agree SameRead (read tokens) (read other)

/-- None of the three readers sees the case of names. -/
structure Levels.Blind (levels : Levels) : Prop where
  logical : Reader.Blind levels.logical
  negation : Reader.Blind levels.negation
  signed : Reader.Blind levels.signed

section Readers
variable {tokens other : Tokens} {size : Nat} {deeper : Option Levels}

theorem blind_chainFrom {op? : Token → Option BinaryOp} {operand : Reader Tree}
    (hop : ∀ word, op? (.name word) = none) (hoperand : operand.Blind) :
    ∀ (rounds : Nat) (left : Tree), Reader.Blind (chainFrom op? operand rounds left)
  | 0, left, _, _, h => .ok ⟨rfl, h⟩
  | rounds + 1, left, tokens, other, h => by
    rw [chainFrom, chainFrom, h.bind_next? op? hop]
    cases tokens.next?.bind op? with
    | none => exact .ok ⟨rfl, h⟩
    | some op =>
      refine (hoperand h.advance).bind ?_
      rintro ⟨right, rest⟩ ⟨_, rest'⟩ ⟨rfl, hrest⟩
      refine (hrest.grow _ _).bind ?_
      rintro node _ rfl
      exact blind_chainFrom hop hoperand rounds node hrest

theorem blind_chain {op? : Token → Option BinaryOp} {operand : Reader Tree}
    (hop : ∀ word, op? (.name word) = none) (hoperand : operand.Blind) (size : Nat) :
    Reader.Blind (chain op? operand size) := by
  intro tokens other h
  refine (hoperand h).bind ?_
  rintro ⟨left, rest⟩ ⟨_, rest'⟩ ⟨rfl, hrest⟩
  exact blind_chainFrom hop hoperand size left hrest

theorem blind_stepsFrom :
    ∀ (rounds : Nat) (operand : Tree), Reader.Blind (stepsFrom rounds operand)
  | 0, _, _, _, h => .ok ⟨rfl, h⟩
  | rounds + 1, operand, tokens, other, h => by
    rw [stepsFrom, stepsFrom, h.bind_next? stepOp? fun _ => rfl]
    cases tokens.next?.bind stepOp? with
    | none => exact .ok ⟨rfl, h⟩
    | some op =>
      refine (h.advance.grow _ _).bind ?_
      rintro node _ rfl
      exact blind_stepsFrom rounds node h.advance

theorem blind_argumentsFrom {argument : Reader Tree} (hargument : argument.Blind) :
    ∀ (rounds : Nat) (read : List Tree), Reader.Blind (argumentsFrom argument rounds read)
  | 0, _, _, _, h => .ok ⟨rfl, h⟩
  | rounds + 1, read, tokens, other, h => by
    have hnext := h.next?_eq_iff (.symbol .comma) (by simp)
    by_cases hcomma : tokens.next? = some (.symbol .comma)
    · rw [argumentsFrom, argumentsFrom, if_pos hcomma, if_pos (hnext.mpr hcomma)]
      refine (hargument h.advance).bind ?_
      rintro ⟨tree, rest⟩ ⟨_, rest'⟩ ⟨rfl, hrest⟩
      exact blind_argumentsFrom hargument rounds (tree :: read) hrest
    · rw [argumentsFrom, argumentsFrom, if_neg hcomma, if_neg (mt hnext.mp hcomma)]
      exact .ok ⟨rfl, h⟩

/-- Reads an operand behind an operator in front, one level deeper. -/
def prefixed (op : UnaryOp) (level : Levels → Reader Tree) (deeper : Option Levels) :
    Reader Tree := fun tokens => do
  let levels ← descend deeper tokens
  let (operand, rest) ← level levels tokens.advance
  let node ← rest.grow (.unary op operand.expr) operand.height
  return (node, rest)

section Deeper
variable (hdeeper : ∀ levels ∈ deeper, levels.Blind)
include hdeeper

/-- One level deeper, the readers are the same for both. -/
theorem agree_descend (h : tokens.Alike other) :
    Agree (fun levels levels' => levels = levels' ∧ levels.Blind) (descend deeper tokens)
      (descend deeper other) := by
  cases deeper with
  | none => exact h.fail _ _
  | some levels => exact .ok ⟨rfl, hdeeper levels rfl⟩

/-- Functions are known in any case. -/
theorem agree_call {name name' : String} (hname : lowerWord name = lowerWord name')
    (h : tokens.Alike other) :
    Agree SameRead (call size deeper name tokens) (call size deeper name' other) := by
  have hfunction : Builtin.ofName? name' = Builtin.ofName? name := by
    have hword : ∀ word, Builtin.ofName? word =
        Builtin.all.find? (·.name.toList = (lowerWord word).toList) := fun word => by
      rw [Builtin.ofName?, lowerWord, String.toList_ofList]
    rw [hword, hword, hname]
  have hnext := h.advance.next?_eq_iff (.symbol .openParen) (by simp)
  by_cases hparen : tokens.advance.next? = some (.symbol .openParen)
  · rw [call, call, if_pos hparen, if_pos (hnext.mpr hparen), hfunction]
    cases Builtin.ofName? name with
    | none => exact h.fail _ _
    | some function =>
      refine (agree_descend hdeeper h.advance).bind ?_
      rintro levels _ ⟨rfl, hblind⟩
      refine (hblind.logical h.advance.advance).bind ?_
      rintro ⟨first, rest⟩ ⟨_, rest'⟩ ⟨rfl, hrest⟩
      refine (blind_argumentsFrom hblind.logical size [first] hrest).bind ?_
      rintro ⟨trees, rest⟩ ⟨_, rest'⟩ ⟨rfl, hrest⟩
      refine (hrest.expect .closeParen).bind fun rest rest' hrest => ?_
      split
      · exact (hrest.grow _ _).bind fun node _ hnode => .ok ⟨hnode, hrest⟩
      · exact h.fail _ _
  · rw [call, call, if_neg hparen, if_neg (mt hnext.mp hparen)]
    exact h.fail _ _

theorem blind_primary : Reader.Blind (primary size deeper) := by
  intro tokens other h
  obtain hsame | ⟨word, word', hnext, hnext', hword⟩ := h.next?
  · -- A number, a text, a cell, a name, a parenthesis, any other token, or the end.
    unfold primary
    rw [← hsame]
    split
    · exact .ok ⟨rfl, h.advance⟩
    · exact .ok ⟨rfl, h.advance⟩
    · split
      · exact .ok ⟨rfl, h.advance⟩
      · exact h.fail _ _
    · exact agree_call hdeeper rfl h
    · refine (agree_descend hdeeper h).bind ?_
      rintro levels _ ⟨rfl, hblind⟩
      refine (hblind.logical h.advance).bind ?_
      rintro ⟨inner, rest⟩ ⟨_, rest'⟩ ⟨rfl, hrest⟩
      refine (hrest.expect .closeParen).bind fun rest rest' hrest => ?_
      exact (hrest.grow _ _).bind fun node _ hnode => .ok ⟨hnode, hrest⟩
    · exact h.fail _ _
    · exact h.fail _ _
  · rw [primary, primary, hnext, hnext']
    exact agree_call hdeeper hword h

theorem blind_stepped : Reader.Blind (stepped size deeper) := by
  intro tokens other h
  refine (blind_primary hdeeper h).bind ?_
  rintro ⟨operand, rest⟩ ⟨_, rest'⟩ ⟨rfl, hrest⟩
  exact blind_stepsFrom size operand hrest

theorem blind_prefixed {level : Levels → Reader Tree} (op : UnaryOp)
    (hlevel : ∀ levels : Levels, levels.Blind → (level levels).Blind) :
    Reader.Blind (prefixed op level deeper) := by
  intro tokens other h
  refine (agree_descend hdeeper h).bind ?_
  rintro levels _ ⟨rfl, hblind⟩
  refine (hlevel levels hblind h.advance).bind ?_
  rintro ⟨operand, rest⟩ ⟨_, rest'⟩ ⟨rfl, hrest⟩
  exact (hrest.grow _ _).bind fun node _ hnode => .ok ⟨hnode, hrest⟩

theorem blind_signed : Reader.Blind (signed size deeper) := by
  intro tokens other h
  rw [signed, signed, h.bind_next? signOp? fun _ => rfl]
  cases tokens.next?.bind signOp? with
  | none => exact blind_stepped hdeeper h
  | some op => exact blind_prefixed hdeeper op (fun _ => Levels.Blind.signed) h

theorem blind_comparison : Reader.Blind (comparison size deeper) :=
  blind_chain (fun _ => rfl)
    (blind_chain (fun _ => rfl)
      (blind_chain (fun _ => rfl)
        (blind_chain (fun _ => rfl) (blind_signed hdeeper) size) size) size) size

theorem blind_negation : Reader.Blind (negation size deeper) := by
  intro tokens other h
  have hnext := h.next?_eq_iff (.keyword .not) (by simp)
  by_cases hnot : tokens.next? = some (.keyword .not)
  · rw [negation, negation, if_pos hnot, if_pos (hnext.mpr hnot)]
    exact blind_prefixed hdeeper .not (fun _ => Levels.Blind.negation) h
  · rw [negation, negation, if_neg hnot, if_neg (mt hnext.mp hnot)]
    exact blind_comparison hdeeper h

theorem blind_logical : Reader.Blind (logical size deeper) :=
  blind_chain (fun _ => rfl) (blind_negation hdeeper) size

end Deeper

/-- **At every depth, the readers do not see the case of names.** -/
theorem blind_levels? (size room : Nat) : ∀ levels ∈ levels? size room, levels.Blind := by
  induction room with
  | zero => nofun
  | succ room ih =>
    intro levels hlevels
    obtain rfl := Option.some.inj hlevels
    exact ⟨blind_logical ih, blind_negation ih, blind_signed ih⟩

end Readers

/-! ### Whole formulas -/

theorem agree_parseTokens {tokens other : Tokens} (h : tokens.Alike other) :
    Agree Eq (parseTokens tokens) (parseTokens other) := by
  have hnext := h.next?_eq_none_iff
  by_cases hempty : tokens.next? = none
  · rw [parseTokens, parseTokens, if_pos hempty, if_pos (hnext.mpr hempty)]
    exact h.fail _ _
  · rw [parseTokens, parseTokens, if_neg hempty, if_neg (mt hnext.mp hempty), ← h.length]
    refine (blind_logical (blind_levels? _ _) h).bind ?_
    rintro ⟨tree, rest⟩ ⟨_, rest'⟩ ⟨rfl, hrest⟩
    have hend : rest'.next? = none ↔ rest.next? = none := hrest.next?_eq_none_iff
    dsimp only
    cases hfound : rest.next? with
    | none =>
      rw [hend.mpr hfound]
      exact .ok rfl
    | some token =>
      cases hfound' : rest'.next? with
      | none => exact absurd (hend.mp hfound') (by simp [hfound])
      | some token' => exact hrest.fail _ _

theorem agree_parseBody {text other : String} (h : Recased text.toList other.toList) :
    Agree Eq (parseBody text) (parseBody other) :=
  (tokenize_recased h).bind fun _ _ => agree_parseTokens

/-- **The trees of two recased texts are the same,** or neither text is a formula, and both are
refused at the same byte. -/
theorem agree_parse {text other : String} (h : Recased text.toList other.toList) :
    Agree Eq (parse text) (parse other) := by
  unfold parse
  split
  · rename_i body hbody
    rw [hbody] at h
    obtain ⟨d, tail, hother, hlower, hrest⟩ := h.cons
    obtain rfl := eq_of_toLower_eq hlower (by decide)
    rw [hother]
    exact (agree_parseBody (by simpa using hrest (by decide))).shift 1
  · rename_i hplain
    split
    · -- The other text begins with an equals sign, and then so does this one.
      rename_i tail hother
      rw [hother] at h
      obtain ⟨c, hc, hlower⟩ := h.exists_of_mem_head? rfl
      obtain rfl := eq_of_toLower_eq hlower.symm (by decide)
      obtain ⟨body, hbody⟩ := List.head?_eq_some_iff.mp hc
      exact absurd hbody (hplain body)
    · exact agree_parseBody h

end Gridcalc.Formula
