import Gridcalc.Formula.Expr.Eval
import Gridcalc.Proofs.Formula.Parsing

/-! # The first fault of an evaluation

Only three operators can be without a result: a quotient and a remainder by zero, and a power
whose exponent is negative or too large (`BinaryOp.Faults`).  A node of an expression *faults* when
its operands have values and its operator has no result on them (`Expr.Faults`).  What a value is
follows from the rules of `Expr.HasValue`, which know of no order and of no fault.

Evaluation is strict.  It has a value exactly when no node faults, under a logical operator or in
an argument as anywhere else; otherwise it ends with the fault of the first node in post-order that
faults (`Expr.eval_reports_first_fault`).  One lemma carries the proof: evaluating one thing after
another goes through the nodes of the first and then through those of the second
(`Expr.Reports.bind`).
-/
namespace Gridcalc.Formula

/-! ### Operators -/

/-- **An operator has no result** on the values of its operands, for the given reason. -/
inductive BinaryOp.Faults (limits : Limits) : BinaryOp → Value → Value → ArithmeticFault → Prop
  | byZero {op : BinaryOp} {l r : Value} : op = .div ∨ op = .mod → r.toNumber = 0 →
      Faults limits op l r .divideByZero
  | negative {l r : Value} : r.toNumber < 0 →
      Faults limits .pow l r (.negativeExponent r.toNumber)
  /-- The exponent is above the limit, or no number of 32 bits at all. -/
  | tooLarge {l r : Value} :
      (limits.maxExponent.toNat : Int) < r.toNumber ∨ 4294967296 ≤ r.toNumber →
      Faults limits .pow l r (.exponentTooLarge r.toNumber limits.maxExponent)

variable {limits : Limits} {lookup : Lookup} {fault other : ArithmeticFault}

theorem divide_eq_error {l r : Int} :
    divide l r = .error fault ↔ r = 0 ∧ fault = .divideByZero := by
  unfold divide
  split <;> simp [*, eq_comm]

theorem remainder_eq_error {l r : Int} :
    remainder l r = .error fault ↔ r = 0 ∧ fault = .divideByZero := by
  unfold remainder
  split <;> simp [*, eq_comm]

theorem raise_eq_error {base exponent : Int} : raise limits base exponent = .error fault ↔
    exponent < 0 ∧ fault = .negativeExponent exponent ∨
    ((limits.maxExponent.toNat : Int) < exponent ∨ 4294967296 ≤ exponent) ∧
      fault = .exponentTooLarge exponent limits.maxExponent := by
  -- The limit itself is a number of 32 bits, so the second bound on the exponent is no new one.
  have hbits : limits.maxExponent.toNat < 4294967296 := limits.maxExponent.toNat_lt
  unfold raise
  split
  · rename_i hnegative
    have hsmall : ¬ ((limits.maxExponent.toNat : Int) < exponent ∨ 4294967296 ≤ exponent) := by
      omega
    simp [hnegative, hsmall, eq_comm]
  · rename_i hnonneg
    split
    · rename_i hlarge
      have hlimit : (limits.maxExponent.toNat : Int) < exponent ∨ 4294967296 ≤ exponent := by
        omega
      simp [hnonneg, hlimit, eq_comm]
    · rename_i hsmall
      have hlimit : ¬ ((limits.maxExponent.toNat : Int) < exponent ∨ 4294967296 ≤ exponent) := by
        omega
      simp [hnonneg, hlimit]

theorem map_eq_error {α β : Type} {f : α → β} {result : Except ArithmeticFault α} :
    result.map f = .error fault ↔ result = .error fault := by
  cases result <;> simp [Except.map]

/-- **An operator faults exactly when it has no result.** -/
theorem BinaryOp.apply_eq_error {op : BinaryOp} {l r : Value} :
    op.apply limits l r = .error fault ↔ op.Faults limits l r fault := by
  constructor
  · intro h
    cases op with
    | div =>
      obtain ⟨hzero, rfl⟩ := divide_eq_error.mp (map_eq_error.mp h)
      exact .byZero (.inl rfl) hzero
    | mod =>
      obtain ⟨hzero, rfl⟩ := remainder_eq_error.mp (map_eq_error.mp h)
      exact .byZero (.inr rfl) hzero
    | pow =>
      obtain ⟨hnegative, rfl⟩ | ⟨hlarge, rfl⟩ := raise_eq_error.mp (map_eq_error.mp h)
      · exact .negative hnegative
      · exact .tooLarge hlarge
    | _ => cases h
  · intro h
    cases h with
    | byZero hop hzero =>
      obtain rfl | rfl := hop
      · exact map_eq_error.mpr (divide_eq_error.mpr ⟨hzero, rfl⟩)
      · exact map_eq_error.mpr (remainder_eq_error.mpr ⟨hzero, rfl⟩)
    | negative hnegative =>
      exact map_eq_error.mpr (raise_eq_error.mpr (.inl ⟨hnegative, rfl⟩))
    | tooLarge hlarge => exact map_eq_error.mpr (raise_eq_error.mpr (.inr ⟨hlarge, rfl⟩))

namespace Expr

/-! ### Values -/

section
variable (limits : Limits) (lookup : Lookup)

mutual

/-- **The values of expressions,** by rules that need a value for every operand. -/
inductive HasValue : Expr → Value → Prop
  | number (value : Int) : HasValue (.number value) (.number value)
  | text (content : String) : HasValue (.text content) (.text content)
  | cell (address : String) : HasValue (.cell address) (.text ((lookup address).getD ""))
  | unary {op : UnaryOp} {operand : Expr} {value : Value} : HasValue operand value →
      HasValue (.unary op operand) (op.apply value)
  | binary {op : BinaryOp} {left right : Expr} {l r value : Value} : HasValue left l →
      HasValue right r → op.apply limits l r = .ok value →
      HasValue (.binary op left right) value
  | call {function : Builtin} {args : List Expr} {values : List Value} : HaveValues args values →
      HasValue (.call function args) (.number (function.apply (values.map Value.toNumber)))
  | group {inner : Expr} {value : Value} : HasValue inner value → HasValue (.group inner) value

/-- The values of a list of expressions, one for each. -/
inductive HaveValues : List Expr → List Value → Prop
  | nil : HaveValues [] []
  | cons {e : Expr} {rest : List Expr} {value : Value} {values : List Value} : HasValue e value →
      HaveValues rest values → HaveValues (e :: rest) (value :: values)

end

/-- **A node faults** when its operands have values on which its operator has no result. -/
inductive Faults : Expr → ArithmeticFault → Prop
  | binary {op : BinaryOp} {left right : Expr} {l r : Value} {fault : ArithmeticFault} :
      HasValue limits lookup left l → HasValue limits lookup right r →
      op.Faults limits l r fault → Faults (.binary op left right) fault

end

mutual

/-- **Evaluation gives the value that the rules give.** -/
theorem eval_eq_ok : ∀ {e : Expr} {value : Value},
    e.eval limits lookup = .ok value ↔ HasValue limits lookup e value
  | .number _, _ | .text _, _ | .cell _, _ => by
    constructor
    · intro h
      obtain rfl := Except.ok.inj h
      constructor
    · rintro ⟨⟩
      rfl
  | .unary op operand, value => by
    rw [eval]
    constructor
    · intro h
      obtain ⟨v, hv, h⟩ := bind_eq_ok h
      obtain rfl := Except.ok.inj h
      exact .unary (eval_eq_ok.mp hv)
    · rintro (_ | _ | _ | hv)
      rw [eval_eq_ok.mpr hv]
      rfl
  | .binary op left right, value => by
    rw [eval]
    constructor
    · intro h
      obtain ⟨l, hl, h⟩ := bind_eq_ok h
      obtain ⟨r, hr, h⟩ := bind_eq_ok h
      exact .binary (eval_eq_ok.mp hl) (eval_eq_ok.mp hr) h
    · rintro (_ | _ | _ | _ | ⟨hl, hr, h⟩)
      rw [eval_eq_ok.mpr hl, eval_eq_ok.mpr hr]
      exact h
  | .call function args, value => by
    rw [eval]
    constructor
    · intro h
      obtain ⟨values, hvalues, h⟩ := bind_eq_ok h
      obtain rfl := Except.ok.inj h
      exact .call (evalAll_eq_ok.mp hvalues)
    · rintro (_ | _ | _ | _ | _ | hvalues)
      rw [evalAll_eq_ok.mpr hvalues]
      rfl
  | .group inner, value => by
    rw [eval]
    constructor
    · exact fun h => .group (eval_eq_ok.mp h)
    · rintro ⟨⟩
      exact eval_eq_ok.mpr ‹_›

theorem evalAll_eq_ok : ∀ {es : List Expr} {values : List Value},
    evalAll limits lookup es = .ok values ↔ HaveValues limits lookup es values
  | [], values => by
    constructor
    · intro h
      obtain rfl := Except.ok.inj h
      constructor
    · rintro ⟨⟩
      rfl
  | e :: rest, values => by
    rw [evalAll]
    constructor
    · intro h
      obtain ⟨value, hvalue, h⟩ := bind_eq_ok h
      obtain ⟨others, hothers, h⟩ := bind_eq_ok h
      obtain rfl := Except.ok.inj h
      exact .cons (eval_eq_ok.mp hvalue) (evalAll_eq_ok.mp hothers)
    · rintro (_ | ⟨hvalue, hothers⟩)
      rw [eval_eq_ok.mpr hvalue, evalAll_eq_ok.mpr hothers]
      rfl

end

/-! ### The first fault -/

mutual

/-- Every node of the tree, each behind the nodes under it and those from left to right. -/
def postorder : Expr → List Expr
  | number value => [number value]
  | text content => [text content]
  | cell address => [cell address]
  | unary op operand => operand.postorder ++ [unary op operand]
  | binary op left right => left.postorder ++ (right.postorder ++ [binary op left right])
  | call function args => postorderAll args ++ [call function args]
  | group inner => inner.postorder ++ [group inner]

/-- The nodes of a list of expressions in post-order, one expression after another. -/
def postorderAll : List Expr → List Expr
  | [] => []
  | e :: rest => e.postorder ++ postorderAll rest

end

section
variable (limits : Limits) (lookup : Lookup)

/-- **The first node of a list that faults,** faults so. -/
inductive FirstFault : List Expr → ArithmeticFault → Prop
  | here {node : Expr} {rest : List Expr} {fault : ArithmeticFault} :
      Faults limits lookup node fault → FirstFault (node :: rest) fault
  | later {node : Expr} {rest : List Expr} {fault : ArithmeticFault} :
      (∀ other, ¬ Faults limits lookup node other) → FirstFault rest fault →
      FirstFault (node :: rest) fault

/-- No node of a list faults. -/
def NoFault (nodes : List Expr) : Prop := ∀ node ∈ nodes, ∀ fault, ¬ Faults limits lookup node fault

/-- **A result reports on nodes**: none of them faults if it is a value, and otherwise it is the
fault of the first that does. -/
def Reports {α : Type} (nodes : List Expr) : Except ArithmeticFault α → Prop
  | .ok _ => NoFault limits lookup nodes
  | .error fault => FirstFault limits lookup nodes fault

end

variable {nodes front : List Expr}

theorem Faults.unique {node : Expr} (h : Faults limits lookup node fault)
    (h' : Faults limits lookup node other) : fault = other := by
  cases h with
  | binary hl hr hop =>
    cases h' with
    | binary hl' hr' hop' =>
      obtain rfl := Except.ok.inj ((eval_eq_ok.mpr hl).symm.trans (eval_eq_ok.mpr hl'))
      obtain rfl := Except.ok.inj ((eval_eq_ok.mpr hr).symm.trans (eval_eq_ok.mpr hr'))
      exact Except.error.inj ((BinaryOp.apply_eq_error.mpr hop).symm.trans
        (BinaryOp.apply_eq_error.mpr hop'))

theorem FirstFault.unique (h : FirstFault limits lookup nodes fault)
    (h' : FirstFault limits lookup nodes other) : fault = other := by
  induction h with
  | here hnode =>
    cases h' with
    | here hnode' => exact hnode.unique hnode'
    | later hnone _ => exact absurd hnode (hnone _)
  | later hnone _ ih =>
    cases h' with
    | here hnode' => exact absurd hnode' (hnone _)
    | later _ hrest => exact ih hrest

theorem FirstFault.exists_mem (h : FirstFault limits lookup nodes fault) :
    ∃ node ∈ nodes, Faults limits lookup node fault := by
  induction h with
  | here hnode => exact ⟨_, List.mem_cons_self, hnode⟩
  | later _ _ ih =>
    obtain ⟨node, hmem, hnode⟩ := ih
    exact ⟨node, List.mem_cons_of_mem _ hmem, hnode⟩

theorem FirstFault.append (h : FirstFault limits lookup front fault) (nodes : List Expr) :
    FirstFault limits lookup (front ++ nodes) fault := by
  induction h with
  | here hnode => exact .here hnode
  | later hnone _ ih => exact .later hnone ih

theorem NoFault.firstFault_append (h : NoFault limits lookup front)
    (hnodes : FirstFault limits lookup nodes fault) :
    FirstFault limits lookup (front ++ nodes) fault := by
  induction front with
  | nil => exact hnodes
  | cons node rest ih =>
    obtain ⟨hnode, hrest⟩ := List.forall_mem_cons.mp h
    exact .later hnode (ih hrest)

/-- **One evaluation after another** reports on the nodes of the first and then on those of the
second. -/
theorem Reports.bind {α β : Type} {result : Except ArithmeticFault α}
    {next : α → Except ArithmeticFault β} (hfront : Reports limits lookup front result)
    (hnodes : ∀ a, result = .ok a → Reports limits lookup nodes (next a)) :
    Reports limits lookup (front ++ nodes) (result >>= next) := by
  cases result with
  | error fault => exact FirstFault.append hfront nodes
  | ok a =>
    have hnext := hnodes a rfl
    show Reports limits lookup (front ++ nodes) (next a)
    cases hresult : next a with
    | error fault =>
      rw [hresult] at hnext
      exact NoFault.firstFault_append hfront hnext
    | ok b =>
      rw [hresult] at hnext
      exact List.forall_mem_append.mpr ⟨hfront, hnext⟩

/-- A node that is no binary operation does not fault. -/
theorem noFault_singleton {node : Expr} (h : ∀ op left right, node ≠ .binary op left right) :
    NoFault limits lookup [node] := by
  intro other hmem fault hfault
  obtain rfl := List.mem_singleton.mp hmem
  cases hfault with
  | binary _ _ _ => exact h _ _ _ rfl

/-- An operator on the values of its operands reports on its node. -/
theorem reports_apply {op : BinaryOp} {left right : Expr} {l r : Value}
    (hl : left.eval limits lookup = .ok l) (hr : right.eval limits lookup = .ok r) :
    Reports limits lookup [.binary op left right] (op.apply limits l r) := by
  cases happly : op.apply limits l r with
  | error fault =>
    exact .here (.binary (eval_eq_ok.mp hl) (eval_eq_ok.mp hr) (BinaryOp.apply_eq_error.mp happly))
  | ok value =>
    intro node hmem fault hfault
    obtain rfl := List.mem_singleton.mp hmem
    cases hfault with
    | binary hl' hr' hop =>
      obtain rfl := Except.ok.inj (hl.symm.trans (eval_eq_ok.mpr hl'))
      obtain rfl := Except.ok.inj (hr.symm.trans (eval_eq_ok.mpr hr'))
      cases happly.symm.trans (BinaryOp.apply_eq_error.mpr hop)

mutual

/-- **Evaluation reports on the nodes in post-order.** -/
theorem reports_eval : ∀ e : Expr, Reports limits lookup e.postorder (e.eval limits lookup)
  | .number _ | .text _ | .cell _ => noFault_singleton nofun
  | .unary op operand => by
    rw [postorder, eval]
    exact (reports_eval operand).bind fun _ _ => noFault_singleton nofun
  | .binary op left right => by
    rw [postorder, eval]
    exact (reports_eval left).bind fun l hl =>
      (reports_eval right).bind fun r hr => reports_apply hl hr
  | .call function args => by
    rw [postorder, eval]
    exact (reports_evalAll args).bind fun _ _ => noFault_singleton nofun
  | .group inner => by
    rw [postorder, eval, ← bind_pure (eval limits lookup inner)]
    exact (reports_eval inner).bind fun _ _ => noFault_singleton nofun

theorem reports_evalAll : ∀ es : List Expr,
    Reports limits lookup (postorderAll es) (evalAll limits lookup es)
  | [] => nofun
  | e :: rest => by
    rw [postorderAll, evalAll, ← List.append_nil (postorderAll rest)]
    exact (reports_eval e).bind fun _ _ => (reports_evalAll rest).bind fun _ _ => nofun

end

/-- **Evaluation is strict and reports the first fault.**  An expression has a value exactly when
no node of it faults on the values of its operands, and otherwise its fault is that of the first
node in post-order that does.  A formula that reads is evaluated so, and never comes to an error
other than a fault. -/
theorem eval_reports_first_fault (limits : Limits) (lookup : Lookup) (e : Expr) :
    ((∃ value, e.eval limits lookup = .ok value) ↔
      ∀ node ∈ e.postorder, ∀ fault, ¬ Faults limits lookup node fault) ∧
    (∀ fault, e.eval limits lookup = .error fault ↔
      FirstFault limits lookup e.postorder fault) ∧
    ∀ formula, parse formula = .ok e →
      evaluate limits lookup formula = (e.eval limits lookup).mapError .arithmetic ∧
      ∀ error, evaluate limits lookup formula = .error error → error.isArithmetic = true := by
  have hreports : Reports limits lookup e.postorder (e.eval limits lookup) := reports_eval e
  refine ⟨⟨?_, fun hnone => ?_⟩, fun fault => ⟨fun h => ?_, fun hfirst => ?_⟩,
    fun formula hparse => ?_⟩
  · rintro ⟨value, h⟩
    rwa [h] at hreports
  · cases h : e.eval limits lookup with
    | ok value => exact ⟨value, rfl⟩
    | error fault =>
      rw [h] at hreports
      obtain ⟨node, hmem, hnode⟩ := FirstFault.exists_mem hreports
      exact absurd hnode (hnone node hmem fault)
  · rwa [h] at hreports
  · cases h : e.eval limits lookup with
    | ok value =>
      rw [h] at hreports
      obtain ⟨node, hmem, hnode⟩ := hfirst.exists_mem
      exact absurd hnode (hreports node hmem fault)
    | error found =>
      rw [h] at hreports
      rw [FirstFault.unique hreports hfirst]
  · have hevaluate : evaluate limits lookup formula =
        (e.eval limits lookup).mapError .arithmetic := by
      rw [evaluate, hparse]
      rfl
    refine ⟨hevaluate, fun error herror => ?_⟩
    rw [hevaluate] at herror
    cases h : e.eval limits lookup with
    | ok value =>
      rw [h] at herror
      cases herror
    | error fault =>
      rw [h] at herror
      obtain rfl := Except.error.inj herror
      rfl

/-- A power with a negative exponent, which could not change the truth value above it, and behind it
a quotient by zero. -/
def faultyTwice : Expr :=
  .binary .add
    (.call .mmax [.number 1, .binary .and (.number 0)
      (.binary .pow (.number 2) (.unary .negate (.number 1)))])
    (.binary .div (.number 1) (.number 0))

theorem faultyTwice_reports :
    parse "=mmax(1, 0 and 2^-1) + 1/0" = .ok faultyTwice ∧
      faultyTwice.eval {} (fun _ => none) = .error (.negativeExponent (-1)) ∧
      FirstFault {} (fun _ => none) faultyTwice.postorder (.negativeExponent (-1)) ∧
      evaluate {} (fun _ => none) "=mmax(1, 0 and 2^-1) + 1/0" =
        .error (.arithmetic (.negativeExponent (-1))) ∧
      (FormulaError.arithmetic (.negativeExponent (-1))).isArithmetic = true := by
  obtain ⟨-, hfault, hformula⟩ := eval_reports_first_fault {} (fun _ => none) faultyTwice
  have hparse : parse "=mmax(1, 0 and 2^-1) + 1/0" = .ok faultyTwice := by with_unfolding_all rfl
  have heval : faultyTwice.eval {} (fun _ => none) = .error (.negativeExponent (-1)) := by rfl
  obtain ⟨hevaluate, harithmetic⟩ := hformula _ hparse
  rw [heval] at hevaluate
  exact ⟨hparse, heval, (hfault _).mp heval, hevaluate, harithmetic _ hevaluate⟩

end Expr
end Gridcalc.Formula
