import Gridcalc.Formula.Expr.Eval
import Gridcalc.Proofs.Formula.Parsing
import Gridcalc.Proofs.Formula.Value

/-! # Computing with a stored result

A cell hands on its result as the text that it shows, so a formula that refers to the cell computes
with that text and not with the value.  `Expr.inPlaceOf` puts the expression that was computed
in the place of the cell, and so computes with the value.

For a result that is a text there is no difference.  A number and its text count as the same number,
so no operator tells them apart that takes numbers.  As truth values they may differ: the number
zero is false, and the text `0` is true.  Hence the condition that no operator takes the cell for a
truth value (`Expr.testsCell`), be it in parentheses.  Under this condition a stored number and the
expression it was computed by are different only where they are all there is, and there they show
the same text (`Expr.stored_result_stands_in`).
-/
namespace Gridcalc.Formula

/-! ### Operators on numbers -/

/-- Whether an operator takes its operand for a truth value. -/
def UnaryOp.isLogical (op : UnaryOp) : Bool := op = .not

/-- Whether an operator takes its operands for truth values. -/
def BinaryOp.isLogical (op : BinaryOp) : Bool := op = .and || op = .or || op = .eqv

theorem UnaryOp.apply_congr {op : UnaryOp} {v w : Value} (hop : op.isLogical = false)
    (h : v.toNumber = w.toNumber) : op.apply v = op.apply w := by
  cases op with
  | not => cases hop
  | _ => simp only [apply, h]

theorem BinaryOp.apply_congr {limits : Limits} {op : BinaryOp} {l l' r r' : Value}
    (hop : op.isLogical = false) (hl : l.toNumber = l'.toNumber) (hr : r.toNumber = r'.toNumber) :
    op.apply limits l r = op.apply limits l' r' := by
  cases op with
  | and | or | eqv => cases hop
  | _ => simp only [apply, hl, hr]

/-- A step that depends on one aspect of a result only. -/
theorem bind_eq_of_map_eq {ε α β γ : Type} {x y : Except ε α} (aspect : α → γ)
    {next : α → Except ε β} (h : x.map aspect = y.map aspect)
    (hnext : ∀ a b, aspect a = aspect b → next a = next b) : x >>= next = y >>= next := by
  cases x with
  | error fault =>
    cases y with
    | error other => rw [Except.error.inj h]
    | ok b => cases h
  | ok a =>
    cases y with
    | error other => cases h
    | ok b => exact hnext a b (Except.ok.inj h)

/-- Results of which one aspect agrees, and lists of such results. -/
theorem map_cons_eq_of_map_eq {ε α γ : Type} {x y : Except ε α} {xs ys : Except ε (List α)}
    (aspect : α → γ) (h : x.map aspect = y.map aspect)
    (hrest : xs.map (List.map aspect) = ys.map (List.map aspect)) :
    (x >>= fun a => xs >>= fun rest => pure (a :: rest)).map (List.map aspect) =
      (y >>= fun b => ys >>= fun rest => pure (b :: rest)).map (List.map aspect) := by
  rcases x with fault | a <;> rcases y with other | b
  · rw [Except.error.inj h]
    rfl
  · cases h
  · cases h
  rcases xs with fault | as <;> rcases ys with other | bs
  · rw [Except.error.inj hrest]
    rfl
  · cases hrest
  · cases hrest
  have hfirst : aspect a = aspect b := Except.ok.inj h
  have hothers : as.map aspect = bs.map aspect := Except.ok.inj hrest
  show Except.ok (aspect a :: as.map aspect) = Except.ok (aspect b :: bs.map aspect)
  rw [hfirst, hothers]

namespace Expr

/-! ### An expression in the place of a cell -/

section
variable (a : String)

/-- Whether the expression is the cell with this address, in any number of parentheses. -/
def isCell : Expr → Bool
  | cell address => address = a
  | group inner => inner.isCell
  | _ => false

/-- Whether a node takes the cell for a truth value. -/
def testsCell : Expr → Bool
  | unary op operand => op.isLogical && operand.isCell a
  | binary op left right => op.isLogical && (left.isCell a || right.isCell a)
  | _ => false

variable (source : Expr)

mutual

/-- **The expression in the place of a cell,** in parentheses, within another one. -/
def inPlaceOf : Expr → Expr
  | number value => number value
  | text content => text content
  | cell address => if address = a then group source else cell address
  | unary op operand => unary op (inPlaceOf operand)
  | binary op left right => binary op (inPlaceOf left) (inPlaceOf right)
  | call function args => call function (inPlaceOfAll args)
  | group inner => group (inPlaceOf inner)

/-- The expression in the place of a cell within a list of others. -/
def inPlaceOfAll : List Expr → List Expr
  | [] => []
  | e :: rest => inPlaceOf e :: inPlaceOfAll rest

end

end

variable {limits : Limits} {lookup : Lookup} {a : String} {source : Expr} {v : Value}

section Stored
variable (hsource : source.eval limits lookup = .ok v) (hstored : lookup a = some v.display)
include hsource hstored

/-- The cell has its text for a value, and the expression in its place has the value itself. -/
theorem eval_of_isCell : ∀ {e : Expr}, e.isCell a = true →
    e.eval limits lookup = .ok (.text v.display) ∧
      (source.inPlaceOf a e).eval limits lookup = .ok v
  | cell address, h => by
    obtain rfl : address = a := of_decide_eq_true h
    rw [eval, hstored, inPlaceOf, if_pos rfl, eval, hsource]
    exact ⟨rfl, rfl⟩
  | group inner, h => by
    have hinner : inner.isCell a = true := h
    rw [eval, inPlaceOf, eval]
    exact eval_of_isCell hinner

/-- An aspect that a value shares with its text is kept by an expression, even if that is the cell
itself. -/
theorem map_eval_eq {e : Expr} {γ : Type} (aspect : Value → γ)
    (haspect : aspect (.text v.display) = aspect v)
    (heval : (e.isCell a = true → v = .text v.display) →
      (source.inPlaceOf a e).eval limits lookup = e.eval limits lookup) :
    ((source.inPlaceOf a e).eval limits lookup).map aspect =
      (e.eval limits lookup).map aspect := by
  by_cases hcell : e.isCell a = true
  · obtain ⟨htext, hvalue⟩ := eval_of_isCell hsource hstored hcell
    rw [htext, hvalue]
    exact congrArg Except.ok haspect.symm
  · rw [heval fun h => absurd h hcell]

variable (hnumber : (Value.text v.display).toNumber = v.toNumber)
include hnumber

mutual

/-- **An expression keeps its value,** unless it is the cell itself or some node takes the cell for
a truth value; and then also, if the result is a text. -/
theorem eval_inPlaceOf : ∀ {e : Expr},
    (∀ node ∈ e.nodes, node.testsCell a = true → v = .text v.display) →
    (e.isCell a = true → v = .text v.display) →
    (source.inPlaceOf a e).eval limits lookup = e.eval limits lookup
  | number _, _, _ | text _, _, _ => rfl
  | cell address, _, hcell => by
    by_cases he : address = a
    · have hthis : (cell address).isCell a = true := decide_eq_true he
      obtain ⟨htext, hvalue⟩ := eval_of_isCell hsource hstored hthis
      rw [htext, hvalue, ← hcell hthis]
    · rw [inPlaceOf, if_neg he]
  | unary op operand, htests, _ => by
    obtain ⟨hnode, hoperand⟩ := List.forall_mem_cons.mp htests
    rw [inPlaceOf, eval, eval]
    cases hop : op.isLogical with
    | true =>
      have htested : operand.isCell a = true → (unary op operand).testsCell a = true := fun h => by
        rw [testsCell, hop, h, Bool.and_self]
      rw [eval_inPlaceOf hoperand fun h => hnode (htested h)]
    | false =>
      refine bind_eq_of_map_eq Value.toNumber ?_ fun v w h => ?_
      · exact map_eval_eq hsource hstored _ hnumber (eval_inPlaceOf hoperand)
      · rw [UnaryOp.apply_congr hop h]
  | binary op left right, htests, _ => by
    obtain ⟨hnode, hoperands⟩ := List.forall_mem_cons.mp htests
    obtain ⟨hleft, hright⟩ := List.forall_mem_append.mp hoperands
    rw [inPlaceOf, eval, eval]
    cases hop : op.isLogical with
    | true =>
      have htested : left.isCell a = true ∨ right.isCell a = true →
          (binary op left right).testsCell a = true := fun h => by
        rw [testsCell, hop, Bool.true_and, Bool.or_eq_true]
        exact h
      rw [eval_inPlaceOf hleft fun h => hnode (htested (.inl h)),
        eval_inPlaceOf hright fun h => hnode (htested (.inr h))]
    | false =>
      have hl := map_eval_eq hsource hstored _ hnumber (eval_inPlaceOf hleft)
      have hr := map_eval_eq hsource hstored _ hnumber (eval_inPlaceOf hright)
      -- The right operand first, for every value that the left one may have.
      have hsecond : ∀ l, ((source.inPlaceOf a right).eval limits lookup >>= op.apply limits l) =
          right.eval limits lookup >>= op.apply limits l := fun l =>
        bind_eq_of_map_eq Value.toNumber hr fun _ _ h => BinaryOp.apply_congr hop rfl h
      refine (congrArg _ (funext hsecond)).trans ?_
      refine bind_eq_of_map_eq Value.toNumber hl fun l l' h => ?_
      exact congrArg _ (funext fun r => BinaryOp.apply_congr hop h rfl)
  | call function args, htests, _ => by
    obtain ⟨-, hargs⟩ := List.forall_mem_cons.mp htests
    rw [inPlaceOf, eval, eval]
    refine bind_eq_of_map_eq (List.map Value.toNumber) (map_evalAll_eq hargs) fun v w h => ?_
    rw [h]
  | group inner, htests, hcell => by
    obtain ⟨-, hinner⟩ := List.forall_mem_cons.mp htests
    rw [inPlaceOf, eval, eval]
    exact eval_inPlaceOf hinner hcell

/-- Arguments keep their numbers. -/
theorem map_evalAll_eq : ∀ {es : List Expr},
    (∀ node ∈ nodesAll es, node.testsCell a = true → v = .text v.display) →
    (evalAll limits lookup (source.inPlaceOfAll a es)).map (List.map Value.toNumber) =
      (evalAll limits lookup es).map (List.map Value.toNumber)
  | [], _ => rfl
  | e :: rest, htests => by
    obtain ⟨he, hrest⟩ := List.forall_mem_append.mp htests
    rw [inPlaceOfAll, evalAll, evalAll]
    have hfirst := map_eval_eq hsource hstored _ hnumber (eval_inPlaceOf he)
    exact map_cons_eq_of_map_eq _ hfirst (map_evalAll_eq hrest)

end

end Stored

/-- **A stored result can stand in for its formula.**  The text of an integer counts as that
integer.  If the cell shows the result of an expression, and the result is a text, or a number and
no node takes the cell for a truth value, then with the expression in the place of the cell there
is the same fault or the same text to show. -/
theorem stored_result_stands_in :
    (∀ n : Int, (Value.text (Value.number n).display).toNumber = n) ∧
    ∀ (limits : Limits) (lookup : Lookup) (a : String) (e source : Expr) (v : Value),
      source.eval limits lookup = .ok v → lookup a = some v.display →
      ((∃ content, v = .text content) ∨
        (∃ n, v = .number n) ∧ ∀ node ∈ e.nodes, node.testsCell a = false) →
      ((source.inPlaceOf a e).eval limits lookup).map Value.display =
        (e.eval limits lookup).map Value.display := by
  refine ⟨Value.toNumber_text_display, fun limits lookup a e source v hsource hstored hcase => ?_⟩
  obtain ⟨content, rfl⟩ | ⟨⟨n, rfl⟩, htests⟩ := hcase
  · rw [eval_inPlaceOf hsource hstored rfl (fun _ _ _ => rfl) fun _ => rfl]
  · refine map_eval_eq hsource hstored _ rfl (eval_inPlaceOf hsource hstored ?_ ?_)
    · exact Value.toNumber_text_display n
    · intro node hmem h
      rw [htests node hmem] at h
      cases h

/-- A product that is negative. -/
def negativeProduct : Expr := .binary .mul (.unary .negate (.number 3)) (.number 4)

/-- `B1` shows that product. -/
def shownProduct (address : String) : Option String := if address = "B1" then some "-12" else none

/-- A power below a logical operator, with `B1` in its base and, in parentheses, in its exponent. -/
def powerOfProduct : Expr :=
  .binary .or (.number 0)
    (.binary .pow (.unary .increment (.cell "B1")) (.group (.cell "B1")))

theorem powerOfProduct_stands_in :
    negativeProduct.eval {} shownProduct = .ok (.number (-12)) ∧
      shownProduct "B1" = some (Value.number (-12)).display ∧
      (∀ node ∈ powerOfProduct.nodes, node.testsCell "B1" = false) ∧
      ((negativeProduct.inPlaceOf "B1" powerOfProduct).eval {} shownProduct).map Value.display =
        (powerOfProduct.eval {} shownProduct).map Value.display ∧
      powerOfProduct.eval {} shownProduct = .error (.negativeExponent (-12)) := by
  have hsource : negativeProduct.eval {} shownProduct = .ok (.number (-12)) := by rfl
  have hstored : shownProduct "B1" = some (Value.number (-12)).display := by decide +kernel
  have htests : ∀ node ∈ powerOfProduct.nodes, node.testsCell "B1" = false := by decide +kernel
  exact ⟨hsource, hstored, htests,
    stored_result_stands_in.2 {} shownProduct "B1" powerOfProduct negativeProduct _ hsource hstored
      (.inr ⟨⟨_, rfl⟩, htests⟩), by with_unfolding_all rfl⟩

end Expr
end Gridcalc.Formula
