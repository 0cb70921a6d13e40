import Gridcalc.Formula.Expr.Eval
import Gridcalc.Proofs.Formula.Rereading

/-! # Expressions that keep their meaning in print

A printed expression has other parentheses than the written one, which changes nothing
(`Expr.eval_bare`).  Its meaning changes where a mark is read as something else: a sign in front of
the same sign is read as half of a step, a sign in front of a negation cannot be read, a mark within
a step is read outside of it, and a negation in front of a calculation is read as that of its
result.  An expression without any of these is *legible* (`Expr.legible`), and these are exactly the
expressions that are read back as they were, parentheses apart (`Expr.legible_iff`).

An expression that is not legible may still be read back with its value, as `0 * - -A1` is: whether
it is can only be said of its values.
-/
namespace Gridcalc.Formula

namespace Expr

/-! ### Parentheses -/

mutual

/-- An expression without its parentheses. -/
def bare : Expr → Expr
  | number value => number value
  | text content => text content
  | cell address => cell address
  | unary op operand => unary op operand.bare
  | binary op left right => binary op left.bare right.bare
  | call function args => call function (bareAll args)
  | group inner => inner.bare

/-- Expressions without their parentheses. -/
def bareAll : List Expr → List Expr
  | [] => []
  | e :: rest => e.bare :: bareAll rest

end

section
variable (limits : Limits) (lookup : Lookup)

mutual

/-- **Parentheses have no part in the value.** -/
theorem eval_bare : ∀ e : Expr, e.bare.eval limits lookup = e.eval limits lookup
  | number _ | text _ | cell _ => rfl
  | unary op operand => by rw [bare, eval, eval, eval_bare operand]
  | binary op left right => by rw [bare, eval, eval, eval_bare left, eval_bare right]
  | call function args => by rw [bare, eval, eval, evalAll_bareAll args]
  | group inner => by rw [bare, eval, eval_bare inner]

theorem evalAll_bareAll : ∀ es : List Expr,
    evalAll limits lookup (bareAll es) = evalAll limits lookup es
  | [] => rfl
  | e :: rest => by rw [bareAll, evalAll, evalAll, eval_bare e, evalAll_bareAll rest]

end

theorem eval_eq_of_bare {e other : Expr} (h : other.bare = e.bare) :
    other.eval limits lookup = e.eval limits lookup := by
  rw [← eval_bare limits lookup other, h, eval_bare]

end

end Expr

/-! ### Legible expressions -/

/-- Whether a mark is read with what comes behind it or cannot be read in front of it. -/
def Mark.clashes : Mark → Mark → Bool
  | .minus, next => next == .minus || next == .not
  | .plus, next => next == .plus || next == .not
  | .not, _ => false

namespace Expr

/-- Whether the first mark of an expression can be told from a mark in front of it. -/
def apartFrom (e : Expr) (mark : Mark) : Bool := !e.marks.head?.any mark.clashes

mutual

/-- **Whether all marks of an expression are read as they are meant.** -/
def legible : Expr → Bool
  | number _ | text _ | cell _ => true
  | unary .negate operand => operand.apartFrom .minus && operand.legible
  | unary .identity operand => operand.apartFrom .plus && operand.legible
  | unary .not operand | group operand => operand.legible
  | unary .increment operand | unary .decrement operand => operand.marks.isEmpty && operand.legible
  | binary op left right => left.legible && right.legible &&
    decide (op.tier = .logical ∨ left.marks.head? ≠ some .not ∧ right.marks.head? ≠ some .not)
  | call _ args => allLegible args

/-- Whether all marks of some expressions are read as they are meant. -/
def allLegible : List Expr → Bool
  | [] => true
  | e :: rest => e.legible && allLegible rest

end

end Expr

/-! ### Marks and steps -/

section
variable {ms : List Mark} {mark : Mark}

theorem fuse_cons (h : ms.head?.any mark.clashes = false) :
    fuse (mark :: ms) = mark.op :: fuse ms := by
  cases ms with
  | nil => cases mark <;> rfl
  | cons next ms => cases mark <;> cases next <;> first | rfl | cases h

theorem head_fuse : (fuse ms).head? = some .not ↔ ms.head? = some .not := by
  rcases ms with - | ⟨first, - | ⟨second, ms⟩⟩
  · simp [fuse]
  · cases first <;> decide
  · cases first <;> cases second <;> simp [fuse, Mark.op]

end

namespace Expr
variable {op : UnaryOp} {mark : Mark} {operand : Expr}

theorem legible_mark :
    (unary mark.op operand).legible = (operand.apartFrom mark && operand.legible) := by
  cases mark with
  | minus | plus => rfl
  | not =>
    have hapart : operand.apartFrom .not = true := by
      rw [apartFrom]
      cases operand.marks.head? <;> rfl
    rw [hapart, Bool.true_and]
    rfl

theorem legible_step (h : (op.token, op) ∈ steps) :
    (unary op operand).legible = (operand.marks.isEmpty && operand.legible) := by
  cases op with
  | increment | decrement => rfl
  | _ => exact absurd h (by decide)

theorem front_mark (h : operand.apartFrom mark = true) :
    (unary mark.op operand).front = mark.op :: operand.front := by
  rw [front, marks_mark, fuse_cons (by simpa [apartFrom] using h), front]

theorem head_front {e : Expr} : e.front.head? = some .not ↔ e.marks.head? = some .not := head_fuse

/-! ### Legible expressions are read as they are -/

theorem notsFirst_front_mark (hapart : operand.apartFrom mark = true)
    (h : notsFirst operand.front = true) :
    notsFirst (unary mark.op operand).front = true := by
  rw [front_mark hapart]
  cases mark with
  | not => exact h
  | minus | plus =>
    have hhead : operand.front.head? ≠ some .not := fun he => by
      rw [apartFrom, head_front.mp he] at hapart
      exact Bool.false_ne_true hapart
    rw [notsFirst_iff (by simp [Mark.op])]
    exact List.not_mem_cons_of_ne_of_not_mem (by decide) ((notsFirst_iff hhead).mp h)

mutual

/-- **A legible expression fits.** -/
theorem fits_of_legible : ∀ e : Expr, e.legible = true →
    notsFirst e.front = true ∧ e.coreFits = true
  | number _, _ | text _, _ | cell _, _ => ⟨rfl, rfl⟩
  | unary op operand, h => by
    obtain ⟨mark, rfl⟩ | hstep := op.mark_or_step
    · obtain ⟨hapart, hlegible⟩ := (Bool.and_eq_true _ _).mp (legible_mark ▸ h)
      obtain ⟨hfront, hcore⟩ := fits_of_legible operand hlegible
      exact ⟨notsFirst_front_mark hapart hfront, hcore⟩
    · obtain ⟨-, hlegible⟩ := (Bool.and_eq_true _ _).mp (legible_step hstep ▸ h)
      obtain ⟨hfront, hcore⟩ := fits_of_legible operand hlegible
      rw [front, marks_step hstep]
      exact ⟨hfront, hcore⟩
  | binary op left right, h => by
    simp only [legible, Bool.and_eq_true, decide_eq_true_eq] at h
    obtain ⟨⟨hleft, hright⟩, hheads⟩ := h
    obtain ⟨hleftfront, hleftcore⟩ := fits_of_legible left hleft
    obtain ⟨hrightfront, hrightcore⟩ := fits_of_legible right hright
    have hfirst : op.tier = .logical ∨ right.front.head? ≠ some .not :=
      hheads.imp_right fun h => mt head_front.mp h.2
    simp only [coreFits, Bool.and_eq_true, decide_eq_true_eq]
    exact ⟨rfl, ⟨⟨⟨hleftcore, hrightcore⟩, hleftfront⟩, hrightfront⟩, hfirst⟩
  | call _ args, h => ⟨rfl, allFit_of_allLegible args h⟩
  | group inner, h => fits_of_legible inner h

theorem allFit_of_allLegible : ∀ es : List Expr, allLegible es = true → allFit es = true
  | [], _ => rfl
  | e :: rest, h => by
    obtain ⟨he, hrest⟩ := (Bool.and_eq_true _ _).mp h
    obtain ⟨hfront, hcore⟩ := fits_of_legible e he
    simp only [allFit, Bool.and_eq_true]
    exact ⟨⟨hfront, hcore⟩, allFit_of_allLegible rest hrest⟩

end

mutual

/-- **A legible expression is read as it is,** apart from parentheses. -/
theorem bare_reading_of_legible : ∀ e : Expr, e.legible = true → e.reading.expr.bare = e.bare
  | number _, _ | text _, _ | cell _, _ => rfl
  | unary op operand, h => by
    obtain ⟨mark, rfl⟩ | hstep := op.mark_or_step
    · obtain ⟨hapart, hlegible⟩ := (Bool.and_eq_true _ _).mp (legible_mark ▸ h)
      have hreading := bare_reading_of_legible operand hlegible
      rw [reading] at hreading
      rw [reading, front_mark hapart, core_mark, Phrase.under, bare, hreading, bare]
    · obtain ⟨hmarks, hlegible⟩ := (Bool.and_eq_true _ _).mp (legible_step hstep ▸ h)
      have hreading := bare_reading_of_legible operand hlegible
      have hnone := List.isEmpty_iff.mp hmarks
      rw [reading, front, hnone] at hreading
      rw [reading, front, marks_step hstep, hnone, core_step hstep]
      exact congrArg (unary op) hreading
  | binary op left right, h => by
    simp only [legible, Bool.and_eq_true, decide_eq_true_eq] at h
    obtain ⟨⟨hleft, hright⟩, hheads⟩ := h
    have hjoined := Phrase.joinedUnder_eq left.core right.reading
      (hheads.imp_right fun h => mt head_front.mp h.1)
    show (Phrase.joinedUnder left.front op left.core right.reading).expr.bare = _
    rw [hjoined, Phrase.joined, bare, bare, ← reading, bare_reading_of_legible left hleft,
      bare_reading_of_legible right hright]
  | call function args, h => by
    have hreadings := bare_readings_of_allLegible args h
    show (Phrase.called function (readings args)).expr.bare = _
    rw [Phrase.expr_called, bare, bare, hreadings]
  | group inner, h => bare_reading_of_legible inner h

theorem bare_readings_of_allLegible : ∀ es : List Expr, allLegible es = true →
    bareAll ((readings es).map (·.expr)) = bareAll es
  | [], _ => rfl
  | e :: rest, h => by
    obtain ⟨he, hrest⟩ := (Bool.and_eq_true _ _).mp h
    have hreading := bare_reading_of_legible e he
    rw [reading] at hreading
    rw [readings, List.map_cons, bareAll, bareAll, hreading, bare_readings_of_allLegible rest hrest]

end

end Expr

/-! ### Only legible expressions are read as they are -/

/-- Whether an operator is a sign. -/
def UnaryOp.isSign : UnaryOp → Bool
  | negate | identity => true
  | increment | decrement | not => false

theorem UnaryOp.isSign_of_step {op : UnaryOp} (h : (op.token, op) ∈ steps) : op.isSign = false := by
  cases op with
  | increment | decrement => rfl
  | _ => exact absurd h (by decide)

section
variable {ms : List Mark} {mark : Mark}

/-- Marks lose signs where they fuse. -/
theorem countP_fuse (ms : List Mark) :
    (fuse ms).countP UnaryOp.isSign ≤ (ms.map Mark.op).countP UnaryOp.isSign := by
  induction ms using fuse.induct with
  | case1 => exact Nat.le_refl _
  | case2 ms ih | case3 ms ih =>
    simp [fuse, Mark.op, UnaryOp.isSign, List.countP_cons, -List.countP_map]
    omega
  | case4 mark ms hminus hplus ih =>
    have hfuse : fuse (mark :: ms) = mark.op :: fuse ms := by
      rw [fuse] <;> assumption
    rw [hfuse, List.map_cons, List.countP_cons, List.countP_cons]
    omega

/-- **Marks that lose no sign are read one by one.** -/
theorem fuse_eq_map (h : (ms.map Mark.op).countP UnaryOp.isSign ≤
    (fuse ms).countP UnaryOp.isSign) : fuse ms = ms.map Mark.op := by
  induction ms using fuse.induct with
  | case1 => rfl
  | case2 ms ih | case3 ms ih =>
    have hless := countP_fuse ms
    simp [fuse, Mark.op, UnaryOp.isSign, List.countP_cons, -List.countP_map] at h
    omega
  | case4 mark ms hminus hplus ih =>
    have hfuse : fuse (mark :: ms) = mark.op :: fuse ms := by
      rw [fuse] <;> assumption
    rw [hfuse] at h ⊢
    simp only [List.map_cons, List.countP_cons, Nat.add_le_add_iff_right] at h
    rw [ih h, List.map_cons]

/-- A sign that is read by itself, with the negations first, clashes with nothing. -/
theorem any_clashes (hfuse : fuse (mark :: ms) = (mark :: ms).map Mark.op)
    (hnots : notsFirst (fuse (mark :: ms)) = true) : ms.head?.any mark.clashes = false := by
  rw [hfuse] at hnots
  cases ms with
  | nil => rfl
  | cons next ms =>
    cases mark with
    | not => rfl
    | minus =>
      cases next with
      | minus => simp [fuse, Mark.op] at hfuse
      | plus => rfl
      | not => simp [notsFirst, Mark.op] at hnots
    | plus =>
      cases next with
      | minus => rfl
      | plus => simp [fuse, Mark.op] at hfuse
      | not => simp [notsFirst, Mark.op] at hnots

end

namespace Expr
variable {op : UnaryOp} {mark : Mark} {operand : Expr}

/-- How many signs stand in front of an expression, also within parentheses. -/
def signs : Expr → Nat
  | unary op operand => operand.signs + if op.isSign then 1 else 0
  | group inner => inner.signs
  | number _ | text _ | cell _ | binary _ _ _ | call _ _ => 0

theorem signs_bare : ∀ e : Expr, e.bare.signs = e.signs
  | number _ | text _ | cell _ | binary _ _ _ | call _ _ => rfl
  | unary op operand => by rw [bare, signs, signs, signs_bare operand]
  | group inner => by rw [bare, signs, signs_bare inner]

theorem signs_eq : ∀ e : Expr, e.signs = (e.marks.map Mark.op).countP UnaryOp.isSign
  | number _ | text _ | cell _ | binary _ _ _ | call _ _ => rfl
  | unary op operand => by
    rw [signs, signs_eq operand]
    obtain ⟨mark, rfl⟩ | hstep := op.mark_or_step
    · rw [marks_mark, List.map_cons, List.countP_cons]
    · rw [marks_step hstep, UnaryOp.isSign_of_step hstep]
      rfl
  | group inner => by rw [signs, signs_eq inner, marks]

theorem signs_under {phrase : Phrase} (ops : List UnaryOp) :
    (phrase.under ops).expr.signs = phrase.expr.signs + ops.countP UnaryOp.isSign := by
  induction ops with
  | nil => rfl
  | cons op ops ih => rw [Phrase.under, signs, ih, List.countP_cons, Nat.add_assoc]

theorem signs_joinedUnder {front : List UnaryOp} {op : BinaryOp} {left right : Phrase} :
    (Phrase.joinedUnder front op left right).expr.signs = 0 := by
  rw [Phrase.joinedUnder]
  split
  · rfl
  · have hnone : (front.takeWhile (· == .not)).countP UnaryOp.isSign = 0 := by
      rw [List.countP_eq_zero]
      intro op hop
      rw [Derives.eq_not_of_mem_takeWhile op hop]
      exact Bool.false_ne_true
    rw [signs_under, hnone]
    rfl

theorem signs_core : ∀ e : Expr, e.core.expr.signs = 0
  | number _ | text _ | cell _ => rfl
  | unary op operand => by
    obtain ⟨mark, rfl⟩ | hstep := op.mark_or_step
    · rw [core_mark, signs_core operand]
    · rw [core_step hstep, Phrase.stepped, signs, signs_core operand, UnaryOp.isSign_of_step hstep]
      rfl
  | binary op left right => by
    rw [core, Phrase.grouped, signs, signs_joinedUnder]
  | call function args => by rw [core, Phrase.expr_called, signs]
  | group inner => by rw [core, signs_core inner]

/-- An expression that is read as it is has lost no sign. -/
theorem front_of_bare_reading {e : Expr} (h : e.reading.expr.bare = e.bare) :
    e.front = e.marks.map Mark.op := by
  have hsigns : e.reading.expr.signs = e.signs := by rw [← signs_bare, h, signs_bare]
  rw [reading, signs_under, signs_core, Nat.zero_add, signs_eq] at hsigns
  exact fuse_eq_map hsigns.ge

/-- A step of an expression that is read as it is has no mark under it. -/
theorem marks_eq_nil_of_step (hstep : (op.token, op) ∈ steps)
    (h : (unary op operand).reading.expr.bare = (unary op operand).bare) : operand.marks = [] := by
  have hfront := front_of_bare_reading h
  rw [marks_step hstep] at hfront
  cases hmarks : operand.marks with
  | nil => rfl
  | cons mark ms =>
    -- The first mark is read in front of the step.
    rw [reading, hfront, hmarks] at h
    obtain ⟨rfl, -⟩ := Expr.unary.inj h
    exact absurd hstep (by cases mark <;> decide)

/-- A negation in front of a calculation is read as that of its result. -/
theorem logical_or_head_of_bare {front : List UnaryOp} {op : BinaryOp} {first second : Phrase}
    {left right : Expr}
    (h : (Phrase.joinedUnder front op first second).expr.bare = .binary op left right) :
    op.tier = .logical ∨ front.head? ≠ some .not := by
  by_cases htier : op.tier = .logical
  · exact Or.inl htier
  · refine Or.inr fun hnot => ?_
    obtain ⟨more, rfl⟩ := List.head?_eq_some_iff.mp hnot
    rw [Phrase.joinedUnder, if_neg htier] at h
    simp [Phrase.under, bare] at h

mutual

/-- **An expression that is read as it is, is legible.** -/
theorem legible_of_bare_reading : ∀ e : Expr, notsFirst e.front = true → e.coreFits = true →
    e.reading.expr.bare = e.bare → e.legible = true
  | number _, _, _, _ | text _, _, _, _ | cell _, _, _, _ => rfl
  | unary op operand, hfront, hcore, h => by
    obtain ⟨mark, rfl⟩ | hstep := op.mark_or_step
    · have hmarks := front_of_bare_reading h
      rw [front, marks_mark] at hmarks hfront
      have hapart : operand.apartFrom mark = true := by
        rw [apartFrom, any_clashes hmarks hfront]
        rfl
      rw [fuse_cons (any_clashes hmarks hfront)] at hfront
      rw [reading, front_mark hapart, core_mark, Phrase.under, bare, bare] at h
      rw [legible_mark, hapart]
      exact legible_of_bare_reading operand (notsFirst_of_cons hfront) hcore (Expr.unary.inj h).2
    · have hnone := marks_eq_nil_of_step hstep h
      rw [reading, front, marks_step hstep, hnone, core_step hstep] at h
      have hoperand : operand.reading.expr.bare = operand.bare := by
        rw [reading, front, hnone]
        exact (Expr.unary.inj h).2
      rw [front, marks_step hstep] at hfront
      rw [legible_step hstep, hnone]
      exact legible_of_bare_reading operand hfront hcore hoperand
  | binary op left right, _, hcore, h => by
    simp only [coreFits, Bool.and_eq_true, decide_eq_true_eq] at hcore
    obtain ⟨⟨⟨⟨hleftcore, hrightcore⟩, hleftfront⟩, hrightfront⟩, hfirst⟩ := hcore
    have hwhole : (Phrase.joinedUnder left.front op left.core right.reading).expr.bare =
        .binary op left.bare right.bare := h
    have hhead := logical_or_head_of_bare hwhole
    rw [Phrase.joinedUnder_eq left.core right.reading hhead] at hwhole
    obtain ⟨-, hleft, hright⟩ := Expr.binary.inj hwhole
    simp only [legible, Bool.and_eq_true, decide_eq_true_eq]
    refine ⟨⟨legible_of_bare_reading left hleftfront hleftcore hleft,
      legible_of_bare_reading right hrightfront hrightcore hright⟩, ?_⟩
    exact or_and_left.mpr
      ⟨hhead.imp_right (mt head_front.mpr), hfirst.imp_right (mt head_front.mpr)⟩
  | call function args, _, hcore, h => by
    have hargs : (Phrase.called function (readings args)).expr.bare = (call function args).bare := h
    rw [Phrase.expr_called, bare, bare] at hargs
    exact allLegible_of_bare_readings args hcore (Expr.call.inj hargs).2
  | group inner, hfront, hcore, h => legible_of_bare_reading inner hfront hcore h

theorem allLegible_of_bare_readings : ∀ es : List Expr, allFit es = true →
    bareAll ((readings es).map (·.expr)) = bareAll es → allLegible es = true
  | [], _, _ => rfl
  | e :: rest, hfits, h => by
    simp only [allFit, Bool.and_eq_true] at hfits
    obtain ⟨⟨hfront, hcore⟩, hrest⟩ := hfits
    rw [readings, List.map_cons, bareAll, bareAll] at h
    obtain ⟨he, hmore⟩ := List.cons.inj h
    rw [allLegible, legible_of_bare_reading e hfront hcore he,
      allLegible_of_bare_readings rest hrest hmore]
    rfl

end

/-- **Legible expressions are exactly those that are read as they are,** apart from parentheses. -/
theorem legible_iff {e : Expr} :
    e.legible = true ↔ e.fits = true ∧ e.reading.expr.bare = e.bare := by
  rw [fits, Bool.and_eq_true]
  constructor
  · exact fun h => ⟨fits_of_legible e h, bare_reading_of_legible e h⟩
  · rintro ⟨⟨hfront, hcore⟩, h⟩
    exact legible_of_bare_reading e hfront hcore h

end Expr

/-! ### Printing and reading back -/

/-- Whatever the grammar derives from the text of a formula is within the limits. -/
def WithinLimits (formula : String) : Prop :=
  ∀ tokens, tokenize (body formula) = .ok tokens → ∀ found nesting,
    Derives (.tier .logical) ⟨tokens.kinds, found, nesting⟩ →
      nesting ≤ maxNesting ∧ found.height ≤ maxHeight

namespace Expr
variable {e : Expr}

/-- The printed form is read back as an expression that always has the same value or fault. -/
def KeepsMeaning (e : Expr) : Prop :=
  ∃ found, parse e.render = .ok found ∧
    ∀ limits lookup, found.eval limits lookup = e.eval limits lookup

theorem withinLimits_render (hwell : e.WellFormed) : WithinLimits e.render ↔
    (e.fits = true → e.reading.nesting ≤ maxNesting ∧ e.reading.expr.height ≤ maxHeight) := by
  obtain ⟨tokens, htokens, hkinds⟩ := tokenize_render hwell
  rw [← body_render hwell] at htokens
  constructor
  · exact fun h hfits => h tokens htokens _ _ (hkinds ▸ derives_reading hwell hfits)
  · intro h others hothers found nesting hderives
    obtain rfl := Except.ok.inj (htokens.symm.trans hothers)
    rw [hkinds] at hderives
    obtain ⟨hfits, rfl, rfl⟩ := (derives_tokens_iff hwell).mp hderives
    exact h hfits

section
variable (hwell : e.WellFormed) (hlimits : WithinLimits e.render)
include hwell hlimits

/-- Within the limits, a printed expression is read back if it fits. -/
theorem parse_render_of_withinLimits (found : Expr) :
    parse e.render = .ok found ↔ e.fits = true ∧ found = e.reading.expr := by
  rw [parse_render_iff hwell]
  have hwithin := (withinLimits_render hwell).mp hlimits
  constructor
  · exact fun ⟨hfits, hfound, _⟩ => ⟨hfits, hfound⟩
  · exact fun ⟨hfits, hfound⟩ => ⟨hfits, hfound, hwithin hfits⟩

/-- What is said of the expression that a printed one is read back as is said of its reading. -/
theorem exists_parse_render (p : Expr → Prop) :
    (∃ found, parse e.render = .ok found ∧ p found) ↔ e.fits = true ∧ p e.reading.expr := by
  have hread := parse_render_of_withinLimits hwell hlimits
  constructor
  · rintro ⟨found, hfound, h⟩
    obtain ⟨hfits, rfl⟩ := (hread found).mp hfound
    exact ⟨hfits, h⟩
  · exact fun ⟨hfits, h⟩ => ⟨_, (hread _).mpr ⟨hfits, rfl⟩, h⟩

theorem keepsMeaning_iff : e.KeepsMeaning ↔ e.fits = true ∧
    ∀ limits lookup, e.reading.expr.eval limits lookup = e.eval limits lookup :=
  exists_parse_render hwell hlimits _

end

end Expr

/-- **When a printed expression keeps its meaning.**  If its text is within the limits, it is read
back with the same value or fault, whatever cells and limits there are, exactly when its negations
stand where the grammar has them and what it is read as has that value.  It is read back as the same
expression, apart from parentheses, exactly when it is legible, and then it keeps its meaning. -/
theorem rendering_keeps_meaning_iff {formula : String} {e : Expr} (hparse : parse formula = .ok e)
    (hlimits : WithinLimits e.render) :
    (e.KeepsMeaning ↔ e.fits = true ∧
      ∀ limits lookup, e.reading.expr.eval limits lookup = e.eval limits lookup) ∧
    ((∃ found, parse e.render = .ok found ∧ found.bare = e.bare) ↔ e.legible = true) ∧
    (e.legible = true → e.KeepsMeaning) := by
  have hwell := Expr.wellFormed_of_parse hparse
  have hsame : (∃ found, parse e.render = .ok found ∧ found.bare = e.bare) ↔ e.legible = true :=
    (Expr.exists_parse_render hwell hlimits fun found => found.bare = e.bare).trans
      Expr.legible_iff.symm
  refine ⟨Expr.keepsMeaning_iff hwell hlimits, hsame, fun h => ?_⟩
  obtain ⟨found, hfound, hbare⟩ := hsame.mpr h
  exact ⟨found, hfound, fun limits lookup => Expr.eval_eq_of_bare limits lookup hbare⟩

/-- Marks that clash with nothing, steps with no mark within, and a negation that is the operand of
a logical operator. -/
theorem mixedMarks_keep_meaning :
    let e : Expr := .binary .and
      (.unary .not (.unary .negate (.unary .increment (.cell "A1"))))
      (.binary .mul (.group (.binary .sub (.cell "B2") (.unary .negate (.number 3))))
        (.binary .pow (.call .mmax [.number 1, .number 2]) (.number 2)))
    parse "=not -a1++ and (b2 - -3) * mmax(1, 2)^2" = .ok e ∧ WithinLimits e.render ∧
      e.KeepsMeaning := by
  intro e
  have hparse : parse "=not -a1++ and (b2 - -3) * mmax(1, 2)^2" = .ok e := by with_unfolding_all rfl
  have hlimits : WithinLimits e.render :=
    (Expr.withinLimits_render (Expr.wellFormed_of_parse hparse)).mpr fun _ => by decide
  exact ⟨hparse, hlimits, (rendering_keeps_meaning_iff hparse hlimits).2.2 (by decide)⟩

/-- A formula is printed as a text within the limits that does not mean the same. -/
def LosesMeaning (formula printed : String) : Prop :=
  ∃ e, parse formula = .ok e ∧ e.render = printed ∧ WithinLimits e.render ∧ ¬ e.KeepsMeaning

/-- A formula loses its meaning if its printed form cannot be read, or has another value. -/
theorem losesMeaning_of_parse {formula printed : String} {e : Expr} (hparse : parse formula = .ok e)
    (hprinted : e.render = printed)
    (hlimits : e.fits = true →
      e.reading.nesting ≤ maxNesting ∧ e.reading.expr.height ≤ maxHeight)
    (limits : Limits) (lookup : Lookup)
    (hvalue : e.fits = true → e.reading.expr.eval limits lookup ≠ e.eval limits lookup) :
    LosesMeaning formula printed := by
  have hwell := Expr.wellFormed_of_parse hparse
  have hwithin := (Expr.withinLimits_render hwell).mpr hlimits
  refine ⟨e, hparse, hprinted, hwithin, fun h => ?_⟩
  obtain ⟨hfits, heval⟩ := (Expr.keepsMeaning_iff hwell hwithin).mp h
  exact hvalue hfits (heval limits lookup)

/-- Two signs in a row are read as a step, a sign within a step is read outside of it, a negation
in front of a sum is read as that of the sum, and a sign in front of a negation cannot be read. -/
theorem meaning_is_lost : LosesMeaning "=- -5" "--5" ∧ LosesMeaning "=(-5)++" "-5++" ∧
    LosesMeaning "=(not 1) + 2" "(not 1 + 2)" ∧ LosesMeaning "=-(not 1)" "-not 1" := by
  refine ⟨?_, ?_, ?_, ?_⟩
  · have hparse : parse "=- -5" = .ok (.unary .negate (.unary .negate (.number 5))) := by
      with_unfolding_all rfl
    exact losesMeaning_of_parse hparse (by decide +kernel) (by decide) {} (fun _ => none)
      (by decide)
  · have hparse : parse "=(-5)++" =
        .ok (.unary .increment (.group (.unary .negate (.number 5)))) := by with_unfolding_all rfl
    exact losesMeaning_of_parse hparse (by decide +kernel) (by decide) {} (fun _ => none)
      (by decide)
  · have hparse : parse "=(not 1) + 2" =
        .ok (.binary .add (.group (.unary .not (.number 1))) (.number 2)) := by
      with_unfolding_all rfl
    exact losesMeaning_of_parse hparse (by decide +kernel) (by decide) {} (fun _ => none)
      (by decide)
  · have hparse : parse "=-(not 1)" =
        .ok (.unary .negate (.group (.unary .not (.number 1)))) := by with_unfolding_all rfl
    exact losesMeaning_of_parse hparse (by decide +kernel) (by decide) {} (fun _ => none)
      (by decide)

end Gridcalc.Formula
