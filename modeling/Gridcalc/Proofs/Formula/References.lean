import Gridcalc.Formula.Expr.Eval
import Gridcalc.Formula.Expr.References
import Gridcalc.Proofs.Address
import Gridcalc.Proofs.Formula.Parsing

/-! # What a formula reads

The references of an expression are the addresses of its cell nodes.  Two facts make them
the right thing to keep in a dependency graph.  Evaluation asks its lookup for references
only, so two lookups that agree on them give the same value or the same fault
(`Expr.eval_congr`, `evaluate_congr`).  And every reference of a formula that was read is
the canonical address of a cell (`canonical_of_mem_references`), so two references to one
cell are one text.

The second fact is an invariant of the grammar (`Derives.canonical`).  It enters with the token
of a cell and is carried on by every rule that builds an expression from smaller ones.
-/
namespace Gridcalc.Formula

/-! ### Cell nodes -/

theorem Expr.mem_references {e : Expr} {a : String} :
    a ∈ e.references ↔ Expr.cell a ∈ e.nodes := by
  rw [Expr.references, Std.ExtTreeSet.mem_ofList, List.contains_iff_mem, List.mem_filterMap]
  constructor
  · rintro ⟨node, hnode, ha⟩
    cases node with
    | cell b =>
      simp only [Expr.address?, Option.some.injEq] at ha
      exact ha ▸ hnode
    | _ => simp [Expr.address?] at ha
  · intro h
    exact ⟨.cell a, h, rfl⟩

/-! ### Evaluation reads references only -/

section Evaluation
variable {limits : Limits} {l₁ l₂ : Lookup}

mutual

/-- **Two lookups that agree on the cell nodes of an expression give one value.**  A cell
that shows no text counts as showing the empty one. -/
theorem Expr.eval_congr : ∀ e : Expr,
    (∀ a, Expr.cell a ∈ e.nodes → (l₁ a).getD "" = (l₂ a).getD "") →
    e.eval limits l₁ = e.eval limits l₂
  | .number _, _ | .text _, _ => rfl
  | .cell a, h => by
    rw [Expr.eval, Expr.eval, h a (by simp [Expr.nodes])]
  | .unary op operand, h => by
    rw [Expr.eval, Expr.eval, Expr.eval_congr operand fun a ha => h a (by simp [Expr.nodes, ha])]
  | .binary op left right, h => by
    rw [Expr.eval, Expr.eval, Expr.eval_congr left fun a ha => h a (by simp [Expr.nodes, ha]),
      Expr.eval_congr right fun a ha => h a (by simp [Expr.nodes, ha])]
  | .call function args, h => by
    rw [Expr.eval, Expr.eval, Expr.evalAll_congr args fun a ha => h a (by simp [Expr.nodes, ha])]
  | .group inner, h => by
    rw [Expr.eval, Expr.eval, Expr.eval_congr inner fun a ha => h a (by simp [Expr.nodes, ha])]

theorem Expr.evalAll_congr : ∀ es : List Expr,
    (∀ a, Expr.cell a ∈ Expr.nodesAll es → (l₁ a).getD "" = (l₂ a).getD "") →
    Expr.evalAll limits l₁ es = Expr.evalAll limits l₂ es
  | [], _ => rfl
  | e :: rest, h => by
    rw [Expr.evalAll, Expr.evalAll,
      Expr.eval_congr e fun a ha => h a (by simp [Expr.nodesAll, ha]),
      Expr.evalAll_congr rest fun a ha => h a (by simp [Expr.nodesAll, ha])]

end

/-- Two lookups that agree on the references of a formula give one value. -/
theorem evaluate_congr {formula : String}
    (h : ∀ e, parse formula = .ok e → ∀ a ∈ e.references, (l₁ a).getD "" = (l₂ a).getD "") :
    evaluate limits l₁ formula = evaluate limits l₂ formula := by
  unfold evaluate
  cases hparse : parse formula with
  | error fault => rfl
  | ok e =>
    have heval : e.eval limits l₁ = e.eval limits l₂ :=
      e.eval_congr fun a ha => h e hparse a (Expr.mem_references.mpr ha)
    simp only [bind, Except.bind, heval]

end Evaluation

/-! ### References are canonical -/

/-- Every cell node has the address of its cell. -/
def Expr.Canonical (e : Expr) : Prop := ∀ a, Expr.cell a ∈ e.nodes → Address.Canonical a

namespace Expr

theorem Canonical.unary {op : UnaryOp} {e : Expr} (h : e.Canonical) : (unary op e).Canonical := by
  intro a ha
  exact h a (by simpa [nodes] using ha)

theorem Canonical.group {e : Expr} (h : e.Canonical) : (group e).Canonical := by
  intro a ha
  exact h a (by simpa [nodes] using ha)

theorem Canonical.binary {op : BinaryOp} {l r : Expr} (hl : l.Canonical) (hr : r.Canonical) :
    (binary op l r).Canonical := by
  intro a ha
  rcases (by simpa [nodes] using ha : cell a ∈ l.nodes ∨ cell a ∈ r.nodes) with h | h
  · exact hl a h
  · exact hr a h

theorem exists_mem_of_mem_nodesAll {node : Expr} : ∀ {es : List Expr},
    node ∈ nodesAll es → ∃ e ∈ es, node ∈ e.nodes
  | [], h => by simp [nodesAll] at h
  | e :: rest, h => by
    rw [nodesAll, List.mem_append] at h
    rcases h with h | h
    · exact ⟨e, List.mem_cons_self, h⟩
    · obtain ⟨e', he', h⟩ := exists_mem_of_mem_nodesAll h
      exact ⟨e', List.mem_cons_of_mem _ he', h⟩

theorem Canonical.call {function : Builtin} {args : List Expr}
    (h : ∀ e ∈ args, e.Canonical) : (call function args).Canonical := by
  intro a ha
  rw [nodes, List.mem_cons] at ha
  rcases ha with ha | ha
  · cases ha
  · obtain ⟨e, he, ha⟩ := exists_mem_of_mem_nodesAll ha
    exact h e he a ha

end Expr

/-- What the grammar derives is canonical. -/
theorem Derives.canonical {rule : Rule} {phrase : Phrase} (h : Derives rule phrase) :
    phrase.expr.Canonical := by
  induction h with
  | operand _ ih | comparison _ ih | stepped _ ih | primary _ ih => exact ih
  | binary _ _ _ ihleft ihright => exact ihleft.binary ihright
  | not _ ih | sign _ _ ih | step _ _ ih => exact ih.unary
  | number _ | text _ =>
    intro a ha
    simp [Expr.nodes] at ha
  | cell hparse =>
    -- The one place where a cell node is made: its text has just been canonicalised.
    intro a ha
    simp only [Expr.nodes, List.mem_singleton, Expr.cell.injEq] at ha
    exact ha ▸ Address.canonical_of_parse hparse
  | group _ ih => exact ih.group
  | call _ _ _ _ ihfirst ihmore =>
    refine Expr.Canonical.call fun e he => ?_
    rcases List.mem_cons.mp he with rfl | he
    · exact ihfirst
    · obtain ⟨phrase, hphrase, rfl⟩ := List.mem_map.mp he
      exact ihmore phrase hphrase

/-- **Every reference of a formula is the canonical address of a cell.** -/
theorem canonical_of_mem_references {formula : String} {e : Expr} (h : parse formula = .ok e)
    {a : String} (ha : a ∈ e.references) : Address.Canonical a := by
  obtain ⟨_, _, hderives⟩ := derives_of_parse h
  exact hderives.canonical a (Expr.mem_references.mp ha)

end Gridcalc.Formula
