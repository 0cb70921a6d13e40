import Gridcalc.Proofs.Formula.Rendering
import Mathlib.Data.List.Chain
import Mathlib.Data.List.TakeWhile

/-! # Reading printed expressions back

A printed expression can be read back exactly when its negations stand where the grammar has them:
in front of an operand of a logical operator, of an argument, or of the whole, and there in front of
all signs (`Expr.fits`).  Then it is read as `Expr.reading` says, which may have another value.  If
they stand elsewhere nothing can be derived, because a derived phrase has a negation only at its
front and behind certain tokens (`NotsPlaced`).
-/
namespace Gridcalc.Formula

/-! ### Fitting expressions -/

/-- No negation stands behind another operator. -/
def notsFirst (front : List UnaryOp) : Bool := !(front.dropWhile (· == .not)).contains .not

section
variable {ops : List UnaryOp}

theorem takeWhile_not (h : ops.head? ≠ some .not) : ops.takeWhile (· == .not) = [] := by
  cases ops with
  | nil => rfl
  | cons op ops => exact List.takeWhile_cons_of_neg (by simpa using h)

theorem dropWhile_not (h : ops.head? ≠ some .not) : ops.dropWhile (· == .not) = ops := by
  have hsplit := ops.takeWhile_append_dropWhile (p := (· == .not))
  rwa [takeWhile_not h, List.nil_append] at hsplit

/-- Operators that do not begin with a negation have none if negations come first. -/
theorem notsFirst_iff (h : ops.head? ≠ some .not) : notsFirst ops = true ↔ .not ∉ ops := by
  rw [notsFirst, dropWhile_not h]
  simp

theorem notsFirst_of_cons {op : UnaryOp} (h : notsFirst (op :: ops) = true) :
    notsFirst ops = true := by
  by_cases hop : op = .not
  · subst hop
    exact h
  · have hnone := (notsFirst_iff (by simpa using hop)).mp h
    have hrest : .not ∉ ops.dropWhile (· == .not) := fun hmem =>
      hnone (List.mem_cons_of_mem op ((List.dropWhile_sublist _).subset hmem))
    simpa [notsFirst] using hrest

/-- Without a negation as their first one, operators apply to what is directly behind them. -/
theorem Phrase.joinedUnder_eq {op : BinaryOp} (left right : Phrase)
    (h : op.tier = .logical ∨ ops.head? ≠ some .not) :
    Phrase.joinedUnder ops op left right = Phrase.joined op (left.under ops) right := by
  rw [joinedUnder]
  split
  · rfl
  · rename_i htier
    have hhead := h.resolve_left htier
    rw [takeWhile_not hhead, dropWhile_not hhead, under]

end

namespace Expr

mutual

/-- Whether the negations within an expression, behind its marks, stand where the grammar has
them. -/
def coreFits : Expr → Bool
  | number _ | text _ | cell _ => true
  | unary _ operand | group operand => operand.coreFits
  | binary op left right => left.coreFits && right.coreFits && notsFirst left.front &&
    notsFirst right.front && decide (op.tier = .logical ∨ right.front.head? ≠ some .not)
  | call _ args => allFit args

/-- Whether the negations of some arguments stand where the grammar has them. -/
def allFit : List Expr → Bool
  | [] => true
  | e :: rest => notsFirst e.front && e.coreFits && allFit rest

end

/-- **Whether the negations of an expression stand where the grammar has them.** -/
def fits (e : Expr) : Bool := notsFirst e.front && e.coreFits

end Expr

/-! ### Fitting expressions are derived -/

section
variable {phrase left right : Phrase}

theorem Phrase.under_append (first second : List UnaryOp) :
    phrase.under (first ++ second) = (phrase.under second).under first := by
  induction first with
  | nil => rfl
  | cons op first ih => rw [List.cons_append, under, under, ih]

namespace Derives

theorem under_signs {ops : List UnaryOp} (hops : .not ∉ ops) (h : Derives .signed phrase) :
    Derives .signed (phrase.under ops) := by
  induction ops with
  | nil => exact h
  | cons op ops ih =>
    obtain ⟨hop, hrest⟩ := List.ne_and_not_mem_of_not_mem_cons hops
    have hsign : (op.token, op) ∈ signs := by
      cases op with
      | not => exact absurd rfl hop
      | _ => decide
    exact .sign hsign (ih hrest)

theorem under_nots {ops : List UnaryOp} (hops : ∀ op ∈ ops, op = .not)
    (h : Derives .negation phrase) : Derives .negation (phrase.under ops) := by
  induction ops with
  | nil => exact h
  | cons op ops ih =>
    obtain ⟨rfl, hrest⟩ := List.forall_mem_cons.mp hops
    exact .not (ih hrest)

/-- An operand with signs is one of every tier of calculations. -/
theorem operand_of_signed {tier : Tier} (htier : tier ≠ .logical) (h : Derives .signed phrase) :
    Derives tier.operand phrase := by
  cases tier with
  | logical => exact absurd rfl htier
  | comparison => exact .operand (.operand (.operand h))
  | additive => exact .operand (.operand h)
  | multiplicative => exact .operand h
  | power => exact h

theorem comparison_of_tier {tier : Tier} (htier : tier ≠ .logical)
    (h : Derives (.tier tier) phrase) : Derives (.tier .comparison) phrase := by
  cases tier with
  | logical => exact absurd rfl htier
  | comparison => exact h
  | additive => exact .operand h
  | multiplicative => exact .operand (.operand h)
  | power => exact .operand (.operand (.operand h))

theorem eq_not_of_mem_takeWhile {ops : List UnaryOp} :
    ∀ op ∈ ops.takeWhile (· == .not), op = .not :=
  fun _ hop => eq_of_beq (List.mem_takeWhile_imp (p := (· == UnaryOp.not)) hop)

/-- A phrase with fitting operators in front is a negation. -/
theorem under_front {ops : List UnaryOp} (hops : notsFirst ops = true)
    (h : Derives .stepped phrase) : Derives .negation (phrase.under ops) := by
  have hsigns : .not ∉ ops.dropWhile (· == .not) := by simpa [notsFirst] using hops
  rw [← List.takeWhile_append_dropWhile (p := (· == .not)) (l := ops), Phrase.under_append]
  have hsigned : Derives Tier.comparison.operand (phrase.under (ops.dropWhile (· == .not))) :=
    operand_of_signed nofun (.under_signs hsigns (.stepped h))
  exact .under_nots eq_not_of_mem_takeWhile (.comparison (.operand hsigned))

/-- Two operands with an operator between them are derived as far as operators in front let them. -/
theorem joinedUnder {front : List UnaryOp} {op : BinaryOp} (hfront : notsFirst front = true)
    (hleft : Derives .stepped left)
    (hright : Derives op.tier.operand right) :
    Derives (.tier .logical) (Phrase.joinedUnder front op left right) := by
  have hop := op.token_mem_operators
  rw [Phrase.joinedUnder]
  split
  · rename_i htier
    rw [htier] at hop hright
    exact .binary (.operand (under_front hfront hleft)) hop hright
  · rename_i htier
    have hsigns : .not ∉ front.dropWhile (· == .not) := by simpa [notsFirst] using hfront
    have hsigned : Derives .signed (left.under (front.dropWhile (· == .not))) :=
      under_signs hsigns (.stepped hleft)
    have hbinary := Derives.binary (.operand (operand_of_signed htier hsigned)) hop hright
    exact .operand (under_nots eq_not_of_mem_takeWhile
      (.comparison (comparison_of_tier htier hbinary)))

theorem called {function : Builtin} {args : List Phrase}
    (haccepts : function.accepts args.length = true)
    (hargs : ∀ phrase ∈ args, Derives (.tier .logical) phrase) :
    Derives .primary (Phrase.called function args) := by
  have hname : function.name.toList.map Char.toLower = function.name.toList := by
    cases function <;> decide
  cases args with
  | nil => cases function <;> exact absurd haccepts (by decide)
  | cons first more =>
    obtain ⟨hfirst, hmore⟩ := List.forall_mem_cons.mp hargs
    exact .call hname hfirst hmore haccepts

end Derives

namespace Expr

theorem length_readings (es : List Expr) : (readings es).length = es.length := by
  induction es with
  | nil => rfl
  | cons e rest ih => rw [readings, List.length_cons, List.length_cons, ih]

mutual

/-- **What a fitting expression is read as is derived.** -/
theorem derives_core : ∀ e : Expr, e.WellFormed → e.coreFits = true → Derives .stepped e.core
  | .number value, hwell, _ => by
    obtain ⟨number, rfl⟩ := Int.eq_ofNat_of_zero_le hwell
    exact .primary (.number number)
  | .text content, _, _ => .primary (.text content)
  | .cell address, hwell, _ => by
    obtain ⟨cell, hparse, rfl⟩ := hwell
    exact .primary (.cell hparse)
  | .unary op operand, hwell, hfits => by
    have hoperand := derives_core operand hwell hfits
    obtain ⟨mark, rfl⟩ | hstep := op.mark_or_step
    · rwa [core_mark]
    · rw [core_step hstep]
      exact .step hoperand hstep
  | .binary op left right, ⟨hleft, hright⟩, hfits => by
    simp only [coreFits, Bool.and_eq_true, decide_eq_true_eq] at hfits
    obtain ⟨⟨⟨⟨hfitsleft, hfitsright⟩, hfront⟩, hbehind⟩, hfirst⟩ := hfits
    have hcore := derives_core right hright hfitsright
    have hoperand : Derives op.tier.operand (right.core.under right.front) := by
      by_cases htier : op.tier = .logical
      · rw [htier]
        exact .under_front hbehind hcore
      · have hsigns := (notsFirst_iff (hfirst.resolve_left htier)).mp hbehind
        exact .operand_of_signed htier (.under_signs hsigns (.stepped hcore))
    exact .primary (.group (.joinedUnder hfront (derives_core left hleft hfitsleft) hoperand))
  | .call function args, ⟨haccepts, hargs⟩, hfits =>
    .primary (.called (by rw [length_readings]; exact haccepts) (derives_readings args hargs hfits))
  | .group inner, hwell, hfits => derives_core inner hwell hfits

theorem derives_readings : ∀ es : List Expr, AllWellFormed es → allFit es = true →
    ∀ phrase ∈ readings es, Derives (.tier .logical) phrase
  | [], _, _ => nofun
  | e :: rest, ⟨hwell, hrest⟩, hfits => by
    simp only [allFit, Bool.and_eq_true] at hfits
    obtain ⟨⟨hfront, hcore⟩, hfitsrest⟩ := hfits
    exact List.forall_mem_cons.mpr
      ⟨.operand (.under_front hfront (derives_core e hwell hcore)),
        derives_readings rest hrest hfitsrest⟩

end

theorem derives_reading {e : Expr} (hwell : e.WellFormed) (hfits : e.fits = true) :
    Derives (.tier .logical) e.reading := by
  obtain ⟨hfront, hcore⟩ := (Bool.and_eq_true _ _).mp hfits
  exact .operand (.under_front hfront (derives_core e hwell hcore))

end Expr

/-! ### Nothing else is derived -/

/-- The tokens behind which a negation may stand. -/
def notPlaces : List Token :=
  [.keyword .not, .symbol .openParen, .symbol .comma, .keyword .and, .keyword .or, .keyword .eqv]

/-- **Negations stand first, or where an operand of a negation, of a logical operator, of a call or
of parentheses begins.** -/
def NotsPlaced (tokens : List Token) : Prop :=
  tokens.IsChain fun a b => b = .keyword .not → a ∈ notPlaces

namespace NotsPlaced
variable {a : Token} {tokens rest : List Token}

theorem cons (h : NotsPlaced rest) (ha : a ∈ notPlaces ∨ rest.head? ≠ some (.keyword .not)) :
    NotsPlaced (a :: rest) := by
  refine List.isChain_cons.mpr ⟨fun b hb he => ?_, h⟩
  rw [he] at hb
  exact ha.resolve_right fun hne => hne hb

theorem append (h : NotsPlaced tokens) (hrest : NotsPlaced rest)
    (hhead : rest.head? ≠ some (.keyword .not)) : NotsPlaced (tokens ++ rest) := by
  refine List.isChain_append.mpr ⟨h, hrest, fun _ _ b hb he => ?_⟩
  rw [he] at hb
  exact absurd hb hhead

theorem listed {phrases : List Phrase} (hrest : NotsPlaced rest)
    (hhead : rest.head? ≠ some (.keyword .not))
    (h : ∀ phrase ∈ phrases, NotsPlaced phrase.tokens) :
    NotsPlaced (Phrase.listed phrases ++ rest) ∧
      (Phrase.listed phrases ++ rest).head? ≠ some (.keyword .not) := by
  induction phrases with
  | nil => exact ⟨hrest, hhead⟩
  | cons phrase phrases ih =>
    obtain ⟨hphrase, hphrases⟩ := List.forall_mem_cons.mp h
    obtain ⟨hplaced, hne⟩ := ih hphrases
    have hall := (hphrase.append hplaced hne).cons (a := .symbol .comma) (Or.inl (by decide))
    exact ⟨by simpa [Phrase.listed] using hall, by simp [Phrase.listed]⟩

theorem of_listed {phrases : List Phrase} (hphrase : phrase ∈ phrases)
    (h : NotsPlaced (Phrase.listed phrases)) : NotsPlaced phrase.tokens := by
  obtain ⟨before, behind, rfl⟩ := List.append_of_mem hphrase
  rw [Phrase.listed, List.flatMap_append, List.flatMap_cons] at h
  exact h.right_of_append.of_cons.left_of_append

end NotsPlaced

/-- Only the operand of a logical operator begins with a negation. -/
theorem Derives.head_ne_not {tier : Tier} (htier : tier ≠ .logical)
    (h : Derives tier.operand phrase) : phrase.tokens.head? ≠ some (.keyword .not) := by
  obtain ⟨token, rest, htokens, hbegins⟩ := h.begins
  have hne : token ≠ .keyword .not := by
    cases tier with
    | logical => exact absurd rfl htier
    | _ => exact hbegins
  rw [htokens, List.head?_cons]
  exact fun he => hne (Option.some.inj he)

theorem mem_notPlaces_of_logical : ∀ entry ∈ Tier.logical.operators, entry.1 ∈ notPlaces := by
  decide

theorem not_mem_notPlaces_of_tier {tier : Tier} (htier : tier ≠ .logical) :
    ∀ entry ∈ tier.operators, entry.1 ∉ notPlaces := by
  cases tier with
  | logical => exact absurd rfl htier
  | _ => decide

theorem ne_not_of_mem_operators {tier : Tier} :
    ∀ entry ∈ tier.operators, entry.1 ≠ .keyword .not := by
  cases tier <;> decide

/-- **What is derived has its negations in place.** -/
theorem Derives.notsPlaced {rule : Rule} (h : Derives rule phrase) : NotsPlaced phrase.tokens := by
  induction h with
  | operand _ ih | comparison _ ih | stepped _ ih | primary _ ih => exact ih
  | @binary tier left right token op _ hop hright ihleft ihright =>
    refine ihleft.append (ihright.cons ?_) fun he => ?_
    · by_cases htier : tier = .logical
      · subst htier
        exact Or.inl (mem_notPlaces_of_logical _ hop)
      · exact Or.inr (hright.head_ne_not htier)
    · exact ne_not_of_mem_operators _ hop (Option.some.inj he)
  | not _ ih => exact ih.cons (Or.inl (by decide))
  | sign _ h ih =>
    have htier : Tier.power ≠ .logical := nofun
    exact ih.cons (Or.inr (Derives.head_ne_not htier h))
  | step _ hop ih =>
    have hall : ∀ entry ∈ steps, entry.1 ≠ .keyword .not := by decide
    exact ih.append (List.isChain_singleton _) fun he => hall _ hop (Option.some.inj he)
  | number | text | cell => exact List.isChain_singleton _
  | group _ ih =>
    exact (ih.append (List.isChain_singleton _) (by decide)).cons (Or.inl (by decide))
  | call _ _ _ _ ihfirst ihmore =>
    obtain ⟨hplaced, hhead⟩ :=
      NotsPlaced.listed (List.isChain_singleton (.symbol .closeParen)) (by decide) ihmore
    exact ((ihfirst.append hplaced hhead).cons (Or.inl (by decide))).cons
      (Or.inr (by simp))

theorem UnaryOp.token_not_mem_notPlaces {op : UnaryOp} (h : op ≠ .not) : op.token ∉ notPlaces := by
  cases op with
  | not => exact absurd rfl h
  | _ => decide

/-- No negation stands in a row of operators where none may stand in front of it. -/
theorem NotsPlaced.not_mem {a : Token} (ha : a ∉ notPlaces) : ∀ {ops : List UnaryOp},
    NotsPlaced (a :: ops.map UnaryOp.token) → .not ∉ ops
  | [], _ => List.not_mem_nil
  | op :: ops, h => by
    obtain ⟨hfirst, hrest⟩ := List.isChain_cons_cons.mp h
    have hop : op ≠ .not := by
      rintro rfl
      exact ha (hfirst rfl)
    exact List.not_mem_cons_of_ne_of_not_mem (Ne.symm hop)
      (NotsPlaced.not_mem (UnaryOp.token_not_mem_notPlaces hop) hrest)

theorem NotsPlaced.notsFirst : ∀ {ops : List UnaryOp}, NotsPlaced (ops.map UnaryOp.token) →
    notsFirst ops = true
  | [], _ => rfl
  | op :: ops, h => by
    by_cases hop : op = .not
    · subst hop
      have hrest : Formula.notsFirst ops = true := NotsPlaced.notsFirst h.of_cons
      exact hrest
    · have hnone := NotsPlaced.not_mem (UnaryOp.token_not_mem_notPlaces hop) h
      have hdrop : (op :: ops).dropWhile (· == .not) = op :: ops :=
        List.dropWhile_cons_of_neg (by simpa using hop)
      rw [Formula.notsFirst, hdrop]
      simp [hnone, Ne.symm hop]

namespace Expr

mutual

/-- **An expression whose tokens have their negations in place fits.** -/
theorem coreFits_of_notsPlaced : ∀ e : Expr, NotsPlaced e.core.tokens → e.coreFits = true
  | .number _, _ | .text _, _ | .cell _, _ => rfl
  | .unary op operand, h => by
    obtain ⟨mark, rfl⟩ | hstep := op.mark_or_step
    · rw [core_mark] at h
      exact coreFits_of_notsPlaced operand h
    · rw [core_step hstep] at h
      exact coreFits_of_notsPlaced operand h.left_of_append
  | .binary op left right, h => by
    simp only [core, Phrase.grouped, Phrase.tokens_joinedUnder, Phrase.tokens_under] at h
    have hinner := h.of_cons.left_of_append
    have hleft : NotsPlaced (left.front.map UnaryOp.token ++ left.core.tokens) :=
      hinner.left_of_append
    have hbehind := hinner.right_of_append
    have hright : NotsPlaced (right.front.map UnaryOp.token ++ right.core.tokens) :=
      hbehind.of_cons
    have hfirst : op.tier = .logical ∨ right.front.head? ≠ some .not := by
      by_cases htier : op.tier = .logical
      · exact Or.inl htier
      · refine Or.inr fun hnot => ?_
        obtain ⟨more, hfront⟩ := List.head?_eq_some_iff.mp hnot
        rw [hfront] at hbehind
        exact not_mem_notPlaces_of_tier htier _ op.token_mem_operators
          ((List.isChain_cons_cons.mp hbehind).1 rfl)
    simp only [coreFits, Bool.and_eq_true, decide_eq_true_eq]
    exact ⟨⟨⟨⟨coreFits_of_notsPlaced left hleft.right_of_append,
      coreFits_of_notsPlaced right hright.right_of_append⟩,
      NotsPlaced.notsFirst hleft.left_of_append⟩,
      NotsPlaced.notsFirst hright.left_of_append⟩, hfirst⟩
  | .call function [], _ => rfl
  | .call function (first :: more), h => by
    have hargs := h.of_cons.of_cons
    refine allFit_of_notsPlaced (first :: more) (List.forall_mem_cons.mpr
      ⟨hargs.left_of_append, fun phrase hphrase => ?_⟩)
    exact .of_listed hphrase hargs.right_of_append.left_of_append
  | .group inner, h => coreFits_of_notsPlaced inner h

theorem allFit_of_notsPlaced : ∀ es : List Expr,
    (∀ phrase ∈ readings es, NotsPlaced phrase.tokens) → allFit es = true
  | [], _ => rfl
  | e :: rest, h => by
    obtain ⟨hfirst, hrest⟩ := List.forall_mem_cons.mp h
    rw [Phrase.tokens_under] at hfirst
    simp only [allFit, Bool.and_eq_true]
    exact ⟨⟨NotsPlaced.notsFirst hfirst.left_of_append,
      coreFits_of_notsPlaced e hfirst.right_of_append⟩, allFit_of_notsPlaced rest hrest⟩

end

/-- **Only the reading of a fitting expression is derived.** -/
theorem derives_tokens_iff {e : Expr} (hwell : e.WellFormed) {found : Expr} {nesting : Nat} :
    Derives (.tier .logical) ⟨e.reading.tokens, found, nesting⟩ ↔
      e.fits = true ∧ found = e.reading.expr ∧ nesting = e.reading.nesting := by
  constructor
  · intro h
    have hplaced : NotsPlaced (e.front.map UnaryOp.token ++ e.core.tokens) :=
      Phrase.tokens_under e.front ▸ h.notsPlaced
    have hfits : e.fits = true := (Bool.and_eq_true _ _).mpr
      ⟨NotsPlaced.notsFirst hplaced.left_of_append,
        coreFits_of_notsPlaced e hplaced.right_of_append⟩
    have hsame := h.unique (derives_reading hwell hfits) rfl
    exact ⟨hfits, congrArg Phrase.expr hsame, congrArg Phrase.nesting hsame⟩
  · rintro ⟨hfits, rfl, rfl⟩
    exact derives_reading hwell hfits

/-- **What a printed expression is read back as,** if it is read back at all. -/
theorem parse_render_iff {e : Expr} (hwell : e.WellFormed) {found : Expr} :
    parse e.render = .ok found ↔ e.fits = true ∧ found = e.reading.expr ∧
      e.reading.nesting ≤ maxNesting ∧ e.reading.expr.height ≤ maxHeight := by
  rw [parse_render_eq_ok hwell]
  constructor
  · rintro ⟨nesting, hnesting, hheight, h⟩
    obtain ⟨hfits, rfl, rfl⟩ := (derives_tokens_iff hwell).mp h
    exact ⟨hfits, rfl, hnesting, hheight⟩
  · rintro ⟨hfits, rfl, hnesting, hheight⟩
    exact ⟨_, hnesting, hheight, (derives_tokens_iff hwell).mpr ⟨hfits, rfl, rfl⟩⟩

end Expr

end
end Gridcalc.Formula
