import Gridcalc.Proofs.Formula.References

/-! # What an evaluation asks for

A lookup is a function, so a value alone does not tell which cells it was computed from.  An
`Inquiry` is a computation that has no lookup and gets to know cells only by asking for them one
by one.  `Expr.inquiry` is evaluation in this form: answered by a lookup it is `Expr.eval`
(`Expr.answer_inquiry`), and the questions it puts are what evaluation looks up.

An evaluation asks for the cell nodes of its expression from left to right and stops at the first
fault (`Expr.asks`).  So it asks for references only, and for all of them when it has a value.
-/
namespace Gridcalc.Formula

/-! ### Inquiries -/

/-- **A computation that asks for the texts of cells.** -/
inductive Inquiry (α : Type) where
  /-- Nothing more is asked. -/
  | done (outcome : Except ArithmeticFault α)
  /-- Asks for the text of a cell and goes on from the answer. -/
  | ask (address : String) (next : Option String → Inquiry α)

namespace Inquiry
variable {α β : Type} {lookup : Lookup}

/-- Goes on from the result of an inquiry, if it has one. -/
def bind : Inquiry α → (α → Inquiry β) → Inquiry β
  | done (.ok value), f => f value
  | done (.error fault), _ => done (.error fault)
  | ask address next, f => ask address fun shown => (next shown).bind f

/-- What comes out when a lookup answers. -/
def answer (lookup : Lookup) : Inquiry α → Except ArithmeticFault α
  | done outcome => outcome
  | ask address next => (next (lookup address)).answer lookup

/-- The addresses that are asked for when a lookup answers, in order. -/
def asked (lookup : Lookup) : Inquiry α → List String
  | done _ => []
  | ask address next => address :: (next (lookup address)).asked lookup

theorem answer_bind (f : α → Inquiry β) : ∀ x : Inquiry α,
    (x.bind f).answer lookup = x.answer lookup >>= fun value => (f value).answer lookup
  | done (.ok _) => rfl
  | done (.error _) => rfl
  | ask address next => answer_bind f (next (lookup address))

theorem asked_bind_of_ok {f : α → Inquiry β} {value : α} : ∀ {x : Inquiry α},
    x.answer lookup = .ok value →
      (x.bind f).asked lookup = x.asked lookup ++ (f value).asked lookup
  | done (.ok _), h => by
    obtain rfl := Except.ok.inj h
    rfl
  | done (.error _), h => by cases h
  | ask address _, h => congrArg (address :: ·) (asked_bind_of_ok h)

theorem asked_bind_of_error {f : α → Inquiry β} {fault : ArithmeticFault} : ∀ {x : Inquiry α},
    x.answer lookup = .error fault → (x.bind f).asked lookup = x.asked lookup
  | done (.ok _), h => by cases h
  | done (.error _), _ => rfl
  | ask address _, h => congrArg (address :: ·) (asked_bind_of_error h)

/-- **Some cells are asked for from the first on,** and all of them unless there is a fault. -/
structure Asks (lookup : Lookup) (x : Inquiry α) (cells : List String) : Prop where
  front : x.asked lookup <+: cells
  all : ∀ value, x.answer lookup = .ok value → x.asked lookup = cells

theorem asks_done (outcome : Except ArithmeticFault α) : Asks lookup (done outcome) [] :=
  ⟨List.prefix_refl _, fun _ _ => rfl⟩

theorem Asks.bind {x : Inquiry α} {f : α → Inquiry β} {first second : List String}
    (hx : Asks lookup x first) (hf : ∀ value, Asks lookup (f value) second) :
    Asks lookup (x.bind f) (first ++ second) := by
  cases h : x.answer lookup with
  | error fault =>
    refine ⟨?_, fun value hvalue => ?_⟩
    · rw [asked_bind_of_error h]
      exact hx.front.trans (List.prefix_append _ _)
    · rw [answer_bind, h] at hvalue
      cases hvalue
  | ok middle =>
    have hasked := asked_bind_of_ok (f := f) h
    rw [hx.all middle h] at hasked
    refine ⟨?_, fun value hvalue => ?_⟩
    · rw [hasked]
      exact (List.prefix_append_right_inj _).mpr (hf middle).front
    · rw [answer_bind, h] at hvalue
      rw [hasked, (hf middle).all value hvalue]

/-- A last step that asks for nothing. -/
theorem Asks.finish {x : Inquiry α} {cells : List String} (hx : Asks lookup x cells)
    (f : α → Except ArithmeticFault β) :
    Asks lookup (x.bind fun value => done (f value)) cells := by
  have hdone : ∀ value, Asks lookup (done (f value)) [] := fun value => asks_done (f value)
  have h := hx.bind hdone
  rwa [List.append_nil] at h

end Inquiry

/-! ### Evaluation as an inquiry -/

namespace Expr
open Inquiry

section
variable (limits : Limits)

mutual

/-- **The evaluation of an expression without a lookup.** -/
def inquiry : Expr → Inquiry Value
  | number value => .done (.ok (.number value))
  | text content => .done (.ok (.text content))
  | cell address => .ask address fun shown => .done (.ok (.text (shown.getD "")))
  | unary op operand => operand.inquiry.bind fun value => .done (.ok (op.apply value))
  | binary op left right =>
    left.inquiry.bind fun l => right.inquiry.bind fun r => .done (op.apply limits l r)
  | call function args =>
    (inquiryAll args).bind fun values =>
      .done (.ok (.number (function.apply (values.map Value.toNumber))))
  | group inner => inner.inquiry

/-- The evaluation of a list of expressions, from left to right. -/
def inquiryAll : List Expr → Inquiry (List Value)
  | [] => .done (.ok [])
  | e :: rest =>
    e.inquiry.bind fun value => (inquiryAll rest).bind fun values => .done (.ok (value :: values))

end

end

variable {limits : Limits} {lookup : Lookup}

mutual

/-- **Answered by a lookup, the inquiry is evaluation.** -/
theorem answer_inquiry : ∀ e : Expr, (e.inquiry limits).answer lookup = e.eval limits lookup
  | number _ | text _ | cell _ => rfl
  | unary op operand => by
    rw [inquiry, answer_bind, answer_inquiry operand, eval]
    rfl
  | binary op left right => by
    rw [inquiry, answer_bind, answer_inquiry left, eval]
    simp only [answer_bind, answer_inquiry right]
    rfl
  | call function args => by
    rw [inquiry, answer_bind, answer_inquiryAll args, eval]
    rfl
  | group inner => by
    rw [inquiry, answer_inquiry inner, eval]

theorem answer_inquiryAll : ∀ es : List Expr,
    (inquiryAll limits es).answer lookup = evalAll limits lookup es
  | [] => rfl
  | e :: rest => by
    rw [inquiryAll, answer_bind, answer_inquiry e, evalAll]
    simp only [answer_bind, answer_inquiryAll rest]
    rfl

end

/-! ### What is asked for -/

/-- The addresses of the cell nodes, from left to right. -/
def cells (e : Expr) : List String := e.nodes.filterMap address?

/-- The addresses of the cell nodes of a list of expressions. -/
def cellsAll (es : List Expr) : List String := (nodesAll es).filterMap address?

theorem cells_unary {op : UnaryOp} (e : Expr) : (unary op e).cells = e.cells := rfl

theorem cells_group (e : Expr) : (group e).cells = e.cells := rfl

theorem cells_binary {op : BinaryOp} (l r : Expr) :
    (binary op l r).cells = l.cells ++ r.cells := by
  rw [cells, nodes]
  exact List.filterMap_append

theorem cells_call {function : Builtin} (args : List Expr) :
    (call function args).cells = cellsAll args := rfl

theorem cellsAll_cons (e : Expr) (es : List Expr) :
    cellsAll (e :: es) = e.cells ++ cellsAll es := by
  rw [cellsAll, nodesAll]
  exact List.filterMap_append

theorem mem_cells {e : Expr} {a : String} : a ∈ e.cells ↔ a ∈ e.references := by
  rw [references, Std.ExtTreeSet.mem_ofList, List.contains_iff_mem, cells]

mutual

/-- **Evaluation asks for the cell nodes from left to right.** -/
theorem asks : ∀ e : Expr, Asks lookup (e.inquiry limits) e.cells
  | number _ | text _ => asks_done _
  | cell _ => ⟨List.prefix_refl _, fun _ _ => rfl⟩
  | unary op operand => (asks operand).finish fun value => .ok (op.apply value)
  | binary op left right => by
    rw [inquiry, cells_binary]
    exact (asks left).bind fun l => (asks right).finish fun r => op.apply limits l r
  | call function args => by
    rw [inquiry]
    exact (asks_all args).finish fun values =>
      Except.ok (Value.number (function.apply (values.map Value.toNumber)))
  | group inner => asks inner

theorem asks_all : ∀ es : List Expr, Asks lookup (inquiryAll limits es) (cellsAll es)
  | [] => asks_done _
  | e :: rest => by
    rw [inquiryAll, cellsAll_cons]
    exact (asks e).bind fun value => (asks_all rest).finish fun values => .ok (value :: values)

end

/-- **The cells that an evaluation looks up.** -/
def lookups (limits : Limits) (lookup : Lookup) (e : Expr) : Std.ExtTreeSet String :=
  .ofList ((e.inquiry limits).asked lookup)

theorem mem_lookups {e : Expr} {a : String} :
    a ∈ e.lookups limits lookup ↔ a ∈ (e.inquiry limits).asked lookup := by
  rw [lookups, Std.ExtTreeSet.mem_ofList, List.contains_iff_mem]

theorem mem_references_of_mem_lookups {e : Expr} {a : String} (h : a ∈ e.lookups limits lookup) :
    a ∈ e.references :=
  mem_cells.mp ((asks e).front.mem (mem_lookups.mp h))

theorem lookups_eq_references {e : Expr} {value : Value} (h : e.eval limits lookup = .ok value) :
    e.lookups limits lookup = e.references := by
  rw [lookups, (asks e).all value ((answer_inquiry e).trans h)]
  rfl

end Expr

/-! ### Formulas -/

/-- The cells that the evaluation of a formula looks up; a text that does not read as a formula
is not evaluated. -/
def lookups (limits : Limits) (lookup : Lookup) (formula : String) : Std.ExtTreeSet String :=
  match parse formula with
  | .ok e => e.lookups limits lookup
  | .error _ => ∅

theorem references_eq_ok_iff {formula : String} {set : Std.ExtTreeSet String} :
    references formula = .ok set ↔ ∃ e, parse formula = .ok e ∧ e.references = set := by
  unfold references
  cases parse formula <;> simp [Except.map]

/-- **A value depends on references only, and evaluation looks up nothing else.**  Two lookups that
agree on the references of an expression give the same value or the same fault.  What evaluation
looks up are references, and all of them if there is a value.  So the references of a formula
decide all that its evaluation can read, and a text without references fails to read under every
lookup. -/
theorem evaluation_reads_references :
    (∀ (e : Expr) (limits : Limits),
      (∀ l₁ l₂ : Lookup, (∀ a ∈ e.references, l₁ a = l₂ a) →
        e.eval limits l₁ = e.eval limits l₂) ∧
      ∀ lookup : Lookup, (e.inquiry limits).answer lookup = e.eval limits lookup ∧
        (∀ a ∈ e.lookups limits lookup, a ∈ e.references) ∧
        ∀ value, e.eval limits lookup = .ok value → e.lookups limits lookup = e.references) ∧
    ∀ (formula : String) (limits : Limits),
      (∀ set, references formula = .ok set →
        (∀ l₁ l₂ : Lookup, (∀ a ∈ set, l₁ a = l₂ a) →
          evaluate limits l₁ formula = evaluate limits l₂ formula) ∧
        ∀ lookup : Lookup, ∀ a ∈ lookups limits lookup formula, a ∈ set) ∧
      ∀ error, references formula = .error error →
        ∀ lookup : Lookup, evaluate limits lookup formula = .error error := by
  refine ⟨fun e limits => ⟨fun l₁ l₂ hagree => ?_, fun lookup => ⟨e.answer_inquiry, ?_, ?_⟩⟩,
    fun formula limits => ⟨fun set hset => ⟨fun l₁ l₂ hagree => ?_, fun lookup a ha => ?_⟩, ?_⟩⟩
  · exact e.eval_congr fun a ha => by rw [hagree a (Expr.mem_references.mpr ha)]
  · exact fun a => Expr.mem_references_of_mem_lookups
  · exact fun value => Expr.lookups_eq_references
  · obtain ⟨e, hparse, rfl⟩ := references_eq_ok_iff.mp hset
    refine evaluate_congr fun e' hparse' a ha => ?_
    obtain rfl := Except.ok.inj (hparse.symm.trans hparse')
    rw [hagree a ha]
  · obtain ⟨e, hparse, rfl⟩ := references_eq_ok_iff.mp hset
    rw [lookups, hparse] at ha
    exact Expr.mem_references_of_mem_lookups ha
  · intro error herror lookup
    unfold references at herror
    cases hparse : parse formula with
    | ok e =>
      rw [hparse] at herror
      cases herror
    | error fault =>
      rw [hparse] at herror
      obtain rfl := Except.error.inj herror
      rw [evaluate, hparse]
      rfl

/-- A quotient and a cell behind it. -/
def quotientAndMore : Expr :=
  .binary .add (.group (.binary .div (.cell "A1") (.cell "B1"))) (.call .mmax [.cell "C1"])

/-- `A1` shows a number and `B1` a zero; nothing else is shown. -/
def shownCells (address : String) : Option String :=
  if address = "A1" then some "6" else if address = "B1" then some "0" else none

/-- The same cells but for one that `quotientAndMore` does not refer to. -/
def shownWithZ9 (address : String) : Option String :=
  if address = "Z9" then some "2" else shownCells address

theorem quotientAndMore_reads :
    quotientAndMore.eval {} shownCells = .error .divideByZero ∧
      quotientAndMore.eval {} shownCells = quotientAndMore.eval {} shownWithZ9 ∧
      "B1" ∈ quotientAndMore.lookups {} shownCells ∧
      "C1" ∉ quotientAndMore.lookups {} shownCells ∧
      "B1" ∈ quotientAndMore.references ∧ "C1" ∈ quotientAndMore.references := by
  obtain ⟨hsame, hreads⟩ := evaluation_reads_references.1 quotientAndMore {}
  have hasked : "B1" ∈ quotientAndMore.lookups {} shownCells := by decide +kernel
  refine ⟨by rfl, hsame shownCells shownWithZ9 fun a ha => ?_, hasked,
    by decide +kernel, (hreads shownCells).2.1 "B1" hasked, by decide +kernel⟩
  have hcell : a ∈ ["A1", "B1", "C1"] := Expr.mem_cells.mpr ha
  simp only [List.mem_cons, List.not_mem_nil, or_false] at hcell
  obtain rfl | rfl | rfl := hcell <;> rfl

end Gridcalc.Formula
