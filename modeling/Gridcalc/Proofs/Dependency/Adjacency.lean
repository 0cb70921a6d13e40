import Gridcalc.Dependency.Adjacency
import Mathlib.Logic.Basic
import Mathlib.Logic.Relation
import Mathlib.Tactic.ByContra

/-! # Arrows of an adjacency map

`adjacency.Arrow a b` says that the map has an arrow from `a` to `b`.  What `link`,
`unlink` and `assign` do is said in terms of arrows, once (`arrow_link`, `arrow_unlink`,
`targets_assign`), and nothing later opens them.

A map is *tidy* when no node has an empty entry.  Tidiness is what makes arrows enough: two
tidy maps with the same arrows are one map (`Tidy.ext`), so that taking arrows away and
putting them back gives the map itself and not only one that looks like it.
-/
namespace Gridcalc

theorem NodeSet.nodup_toList (set : NodeSet) : set.toList.Nodup :=
  Std.ExtTreeSet.distinct_toList.imp fun h he => h (Std.compare_eq_iff_eq.mpr he)

namespace Adjacency

/-! ### Arrows -/

/-- The map has an arrow from `a` to `b`. -/
def Arrow (adjacency : Adjacency) (a b : String) : Prop := b ∈ adjacency.targets a

/-- No way along arrows leads back to where it began. -/
def Acyclic (adjacency : Adjacency) : Prop := ∀ node, ¬ Relation.TransGen adjacency.Arrow node node

variable {adjacency : Adjacency} {source target a b : String}

theorem targets_eq_empty_of_not_mem (h : a ∉ adjacency) : adjacency.targets a = ∅ :=
  Std.ExtTreeMap.getD_eq_fallback h

theorem getElem?_of_mem (h : a ∈ adjacency) : adjacency[a]? = some (adjacency.targets a) :=
  Std.ExtTreeMap.getElem?_eq_some_getD h

/-- Arrows leave keys only. -/
theorem Arrow.mem (h : adjacency.Arrow a b) : a ∈ adjacency := by
  by_contra hn
  rw [Arrow, targets_eq_empty_of_not_mem hn] at h
  exact Std.ExtTreeSet.not_mem_empty h

theorem mem_toList_targets : b ∈ (adjacency.targets a).toList ↔ adjacency.Arrow a b :=
  Std.ExtTreeSet.mem_toList

theorem targets_insert (set : NodeSet) :
    targets (adjacency.insert source set) a = if source = a then set else adjacency.targets a := by
  simp [targets, Std.ExtTreeMap.getD_insert]

theorem targets_erase :
    targets (adjacency.erase source) a = if source = a then ∅ else adjacency.targets a := by
  simp [targets, Std.ExtTreeMap.getD_erase]

/-! ### Arrows after a change -/

theorem targets_assign (set : NodeSet) :
    (adjacency.assign source set).targets a = if source = a then set else adjacency.targets a := by
  unfold assign
  split
  · rename_i h
    rw [targets_erase, Std.ExtTreeSet.isEmpty_iff.mp h]
  · exact targets_insert set

theorem arrow_link :
    (adjacency.link source target).Arrow a b ↔ (a = source ∧ b = target) ∨ adjacency.Arrow a b := by
  rw [Arrow, link, targets_insert]
  split
  · rename_i h
    subst h
    rw [Std.ExtTreeSet.mem_insert, Std.compare_eq_iff_eq]
    simp [Arrow, eq_comm]
  · rename_i h
    simp [Arrow, Ne.symm h]

theorem arrow_unlink :
    (adjacency.unlink source target).Arrow a b ↔
      adjacency.Arrow a b ∧ ¬ (a = source ∧ b = target) := by
  have herase : ∀ c, c ∈ (adjacency.targets source).erase target ↔
      adjacency.Arrow source c ∧ c ≠ target := by
    intro c
    rw [Std.ExtTreeSet.mem_erase, Ne, Std.compare_eq_iff_eq, and_comm, eq_comm]
    rfl
  unfold unlink Arrow
  simp only
  split
  · rename_i h
    rw [Std.ExtTreeSet.isEmpty_iff] at h
    rw [targets_erase]
    split
    · rename_i ha
      subst ha
      have hb := herase b
      rw [h] at hb
      simp only [Std.ExtTreeSet.not_mem_empty, false_iff, not_and, not_not] at hb
      simp only [Std.ExtTreeSet.not_mem_empty, true_and, false_iff, not_and, not_not]
      exact hb
    · rename_i ha
      simp [Ne.symm ha]
  · rw [targets_insert]
    split
    · rename_i ha
      subst ha
      rw [herase]
      simp [Arrow]
    · rename_i ha
      simp [Ne.symm ha]

/-! ### Tidy maps -/

/-- No node has an empty entry. -/
def Tidy (adjacency : Adjacency) : Prop := ∀ node, node ∈ adjacency → ∃ b, adjacency.Arrow node b

theorem tidy_empty : Tidy ∅ := fun _ h => absurd h Std.ExtTreeMap.not_mem_empty

theorem Tidy.getElem?_ne (h : adjacency.Tidy) (a : String) : adjacency[a]? ≠ some ∅ := by
  intro hempty
  obtain ⟨b, hb⟩ := h a (Std.ExtTreeMap.mem_iff_isSome_getElem?.mpr (by rw [hempty]; rfl))
  rw [Arrow, targets, Std.ExtTreeMap.getD_eq_getD_getElem?, hempty] at hb
  exact Std.ExtTreeSet.not_mem_empty hb

theorem exists_arrow_iff_targets_ne_empty :
    (∃ b, adjacency.Arrow a b) ↔ adjacency.targets a ≠ ∅ := by
  constructor
  · rintro ⟨b, hb⟩ hempty
    rw [Arrow, hempty] at hb
    exact Std.ExtTreeSet.not_mem_empty hb
  · intro h
    by_contra hn
    refine h (Std.ExtTreeSet.ext_mem fun b => ?_)
    exact ⟨fun hb => absurd ⟨b, hb⟩ hn, fun hb => absurd hb Std.ExtTreeSet.not_mem_empty⟩

theorem Tidy.assign (h : adjacency.Tidy) (set : NodeSet) : (adjacency.assign source set).Tidy := by
  intro node hnode
  rw [exists_arrow_iff_targets_ne_empty, targets_assign]
  split
  · rename_i heq
    subst heq
    rintro rfl
    simp [Adjacency.assign] at hnode
  · rename_i hne
    refine exists_arrow_iff_targets_ne_empty.mp (h node ?_)
    unfold Adjacency.assign at hnode
    split at hnode
    · exact Std.ExtTreeMap.mem_of_mem_erase hnode
    · rw [Std.ExtTreeMap.mem_insert, Std.compare_eq_iff_eq] at hnode
      exact hnode.resolve_left hne

theorem Tidy.link (h : adjacency.Tidy) : (adjacency.link source target).Tidy := by
  intro node hnode
  rw [Adjacency.link, Std.ExtTreeMap.mem_insert, Std.compare_eq_iff_eq] at hnode
  rcases hnode with rfl | hnode
  · exact ⟨target, arrow_link.mpr (Or.inl ⟨rfl, rfl⟩)⟩
  · obtain ⟨b, hb⟩ := h node hnode
    exact ⟨b, arrow_link.mpr (Or.inr hb)⟩

theorem Tidy.unlink (h : adjacency.Tidy) : (adjacency.unlink source target).Tidy := by
  -- `unlink` is `assign` with the target taken out, so nothing new has to be shown.
  exact h.assign ((adjacency.targets source).erase target)

/-- **Tidy maps with the same arrows are equal.** -/
theorem Tidy.ext {first second : Adjacency} (h₁ : first.Tidy) (h₂ : second.Tidy)
    (h : ∀ a, first.targets a = second.targets a) : first = second := by
  have hmem : ∀ a, a ∈ first ↔ a ∈ second := by
    intro a
    constructor
    · intro ha
      obtain ⟨b, hb⟩ := h₁ a ha
      exact Arrow.mem (b := b) (by rw [Arrow, ← h a]; exact hb)
    · intro ha
      obtain ⟨b, hb⟩ := h₂ a ha
      exact Arrow.mem (b := b) (by rw [Arrow, h a]; exact hb)
  refine Std.ExtTreeMap.ext_getElem? fun a => ?_
  by_cases ha : a ∈ first
  · rw [getElem?_of_mem ha, getElem?_of_mem ((hmem a).mp ha), h a]
  · rw [Std.ExtTreeMap.getElem?_eq_none ha,
      Std.ExtTreeMap.getElem?_eq_none (fun hn => ha ((hmem a).mpr hn))]

end Adjacency
end Gridcalc
