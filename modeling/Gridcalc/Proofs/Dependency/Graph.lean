import Gridcalc.Dependency.Graph
import Gridcalc.Proofs.Dependency.Cycle

/-! # The dependency graph as a relation

A graph is *coherent* when its two maps hold the same arrows and neither has an empty entry
(`DependencyGraph.Coherent`).  A coherent graph is determined by what each node reads
(`Coherent.ext`), so two sequences of changes with the same arrows in the end lead to the
same graph, and a change that is undone leaves no trace (`Coherent.rewire_rewire`).

`setReads` then has a short description.  It goes through exactly when the graph with the
new arrows is acyclic, and a refusal gives back the graph itself (`setReads_of_acyclic`,
`setReads_of_not_acyclic`).  On a graph without cycles new arrows close one exactly when
one of the new targets leads back to the node (`not_acyclic_rewire_iff`).
-/
namespace Gridcalc
namespace DependencyGraph

/-! ### Coherent graphs -/

/-- In the graph, `a` reads `b`. -/
abbrev Reads (graph : DependencyGraph) (a b : String) : Prop := graph.reads.Arrow a b

/-- No node reads itself, directly or through others. -/
abbrev Acyclic (graph : DependencyGraph) : Prop := graph.reads.Acyclic

/-- **The two maps are exact inverses without empty entries.** -/
structure Coherent (graph : DependencyGraph) : Prop where
  inverse : ∀ a b, graph.reads.Arrow a b ↔ graph.readers.Arrow b a
  reads_tidy : graph.reads.Tidy
  readers_tidy : graph.readers.Tidy

/-- **The two maps are exact inverses.**  An entry of either may be empty. -/
def Inverse (graph : DependencyGraph) : Prop :=
  ∀ a b, graph.reads.Arrow a b ↔ graph.readers.Arrow b a

theorem coherent_empty : Coherent ∅ where
  inverse := by
    intro a b
    constructor <;> intro h <;> exact absurd h.mem Std.ExtTreeMap.not_mem_empty
  reads_tidy := Adjacency.tidy_empty
  readers_tidy := Adjacency.tidy_empty

theorem targets_empty (a : String) : (∅ : DependencyGraph).reads.targets a = ∅ :=
  Adjacency.targets_eq_empty_of_not_mem Std.ExtTreeMap.not_mem_empty

theorem acyclic_of_no_reads {graph : DependencyGraph} (h : ∀ a b, ¬ graph.Reads a b) :
    graph.Acyclic := by
  intro node hcycle
  obtain ⟨b, hb, -⟩ := Relation.TransGen.head'_iff.mp hcycle
  exact h node b hb

theorem acyclic_empty : Acyclic ∅ :=
  acyclic_of_no_reads fun _ _ h => absurd h.mem Std.ExtTreeMap.not_mem_empty

theorem coherent_of_eq_empty {graph : DependencyGraph} (h : graph = ∅) : graph.Coherent :=
  h ▸ coherent_empty

theorem acyclic_of_eq_empty {graph : DependencyGraph} (h : graph = ∅) : graph.Acyclic :=
  h ▸ acyclic_empty

/-- A graph with fewer arrows than an acyclic one is acyclic. -/
theorem Acyclic.mono {first second : DependencyGraph} (h : second.Acyclic)
    (hle : ∀ a b, first.Reads a b → second.Reads a b) : first.Acyclic :=
  fun node hcycle => h node (Relation.TransGen.mono hle _ _ hcycle)

theorem Coherent.ext {first second : DependencyGraph} (h₁ : first.Coherent)
    (h₂ : second.Coherent) (h : ∀ a, first.reads.targets a = second.reads.targets a) :
    first = second := by
  have hreads : first.reads = second.reads := h₁.reads_tidy.ext h₂.reads_tidy h
  have hreaders : first.readers = second.readers := by
    refine h₁.readers_tidy.ext h₂.readers_tidy fun b => Std.ExtTreeSet.ext_mem fun a => ?_
    exact (h₁.inverse a b).symm.trans (hreads ▸ h₂.inverse a b)
  obtain ⟨reads, readers⟩ := first
  cases hreads
  cases hreaders
  rfl

/-- Coherent graphs in which the same nodes read the same are equal. -/
theorem Coherent.ext_reads {first second : DependencyGraph} (h₁ : first.Coherent)
    (h₂ : second.Coherent) (h : ∀ a b, first.Reads a b ↔ second.Reads a b) : first = second :=
  h₁.ext h₂ fun a => Std.ExtTreeSet.ext_mem (h a)

variable {graph : DependencyGraph}

theorem mem_nodes_iff {a : String} : a ∈ graph.nodes ↔ a ∈ graph.reads ∨ a ∈ graph.readers := by
  rw [nodes, Std.ExtTreeSet.mem_ofList, List.contains_iff_mem, List.mem_append,
    Std.ExtTreeMap.mem_keys, Std.ExtTreeMap.mem_keys]

theorem Reads.mem_nodes {a b : String} (h : graph.Reads a b) : a ∈ graph.nodes :=
  mem_nodes_iff.mpr (Or.inl h.mem)

theorem Inverse.mem_nodes (hi : graph.Inverse) {a b : String} (h : graph.Reads a b) :
    b ∈ graph.nodes :=
  mem_nodes_iff.mpr (Or.inr ((hi a b).mp h).mem)

/-- The nodes are the ends of the arrows. -/
theorem Coherent.mem_nodes (h : graph.Coherent) {a : String} :
    a ∈ graph.nodes ↔ ∃ b, graph.Reads a b ∨ graph.Reads b a := by
  constructor
  · intro ha
    rcases mem_nodes_iff.mp ha with ha | ha
    · obtain ⟨b, hb⟩ := h.reads_tidy a ha
      exact ⟨b, Or.inl hb⟩
    · obtain ⟨b, hb⟩ := h.readers_tidy a ha
      exact ⟨b, Or.inr ((h.inverse b a).mpr hb)⟩
  · rintro ⟨b, hb | hb⟩
    · exact hb.mem_nodes
    · exact Inverse.mem_nodes h.inverse hb

/-! ### Rewiring -/

variable {node : String} {set : NodeSet}

theorem targets_rewire (a : String) :
    (graph.rewire node set).reads.targets a =
      if node = a then set else graph.reads.targets a := by
  rw [rewire, Adjacency.targets_assign]

theorem targets_rewire_self : (graph.rewire node set).reads.targets node = set := by
  rw [targets_rewire, if_pos rfl]

theorem targets_rewire_of_ne {a : String} (h : a ≠ node) :
    (graph.rewire node set).reads.targets a = graph.reads.targets a := by
  rw [targets_rewire, if_neg (Ne.symm h)]

theorem reads_rewire_self {b : String} : (graph.rewire node set).Reads node b ↔ b ∈ set := by
  rw [Reads, Adjacency.Arrow, targets_rewire_self]

theorem reads_rewire_of_ne {a b : String} (h : a ≠ node) :
    (graph.rewire node set).Reads a b ↔ graph.Reads a b := by
  rw [Reads, Adjacency.Arrow, targets_rewire_of_ne h]
  rfl

section Readers
variable {readers : Adjacency} {targets : List String}

theorem arrow_foldl_unlink {a b : String} :
    (targets.foldl (fun readers target => readers.unlink target node) readers).Arrow b a ↔
      readers.Arrow b a ∧ ¬ (b ∈ targets ∧ a = node) := by
  induction targets generalizing readers with
  | nil => simp
  | cons target rest ih =>
    rw [List.foldl_cons, ih, Adjacency.arrow_unlink, List.mem_cons]
    tauto

theorem arrow_foldl_link {a b : String} :
    (targets.foldl (fun readers target => readers.link target node) readers).Arrow b a ↔
      (b ∈ targets ∧ a = node) ∨ readers.Arrow b a := by
  induction targets generalizing readers with
  | nil => simp
  | cons target rest ih =>
    rw [List.foldl_cons, ih, Adjacency.arrow_link, List.mem_cons]
    tauto

theorem tidy_foldl_unlink (h : readers.Tidy) :
    (targets.foldl (fun readers target => readers.unlink target node) readers).Tidy := by
  induction targets generalizing readers with
  | nil => exact h
  | cons target rest ih => exact ih h.unlink

theorem tidy_foldl_link (h : readers.Tidy) :
    (targets.foldl (fun readers target => readers.link target node) readers).Tidy := by
  induction targets generalizing readers with
  | nil => exact h
  | cons target rest ih => exact ih h.link

end Readers

/-- **Rewiring a node keeps the two maps inverse to each other.** -/
theorem Coherent.rewire (h : graph.Coherent) (node : String) (set : NodeSet) :
    (graph.rewire node set).Coherent where
  inverse := by
    intro a b
    have hreaders : (graph.rewire node set).readers.Arrow b a ↔
        (b ∈ set ∧ a = node) ∨ (graph.Reads a b ∧ ¬ (graph.Reads node b ∧ a = node)) := by
      rw [DependencyGraph.rewire, arrow_foldl_link, arrow_foldl_unlink,
        Std.ExtTreeSet.mem_toList, Adjacency.mem_toList_targets, ← h.inverse a b]
    rw [hreaders]
    show (graph.rewire node set).Reads a b ↔ _
    by_cases ha : a = node
    · subst ha
      rw [reads_rewire_self]
      tauto
    · rw [reads_rewire_of_ne ha]
      tauto
  reads_tidy := h.reads_tidy.assign set
  readers_tidy := tidy_foldl_link (tidy_foldl_unlink h.readers_tidy)

/-- Putting back what a node read undoes its rewiring. -/
theorem Coherent.rewire_rewire (h : graph.Coherent) :
    (graph.rewire node set).rewire node (graph.reads.targets node) = graph := by
  refine ((h.rewire node set).rewire node _).ext h fun a => ?_
  rw [targets_rewire]
  split
  · rename_i ha
    rw [ha]
  · rename_i ha
    exact targets_rewire_of_ne (Ne.symm ha)

/-- Giving a node what it reads already changes nothing. -/
theorem Coherent.rewire_self (h : graph.Coherent) (hset : graph.reads.targets node = set) :
    graph.rewire node set = graph := by
  refine (h.rewire node set).ext h fun a => ?_
  rw [targets_rewire]
  split
  · rename_i ha
    rw [← ha, hset]
  · rfl

theorem Acyclic.clearReads (h : graph.Acyclic) : (graph.clearReads node).Acyclic := by
  refine h.mono fun a b hab => ?_
  by_cases ha : a = node
  · subst ha
    exact absurd (reads_rewire_self.mp hab) Std.ExtTreeSet.not_mem_empty
  · exact (reads_rewire_of_ne ha).mp hab

/-! ### Replacing what a node reads -/

/-- New arrows that close no cycle are accepted. -/
theorem setReads_of_acyclic (h : (graph.rewire node set).Acyclic) :
    graph.setReads node set = (.ok (), graph.rewire node set) := by
  have hself : node ∉ set := fun hmem => h node (.single (reads_rewire_self.mpr hmem))
  have hcycle : (graph.rewire node set).cycle? = none := Adjacency.cycle?_eq_none_iff.mpr h
  simp [setReads, hself, hcycle]

theorem setReads_of_mem (h : node ∈ set) :
    graph.setReads node set = (.error (.selfReference node), graph) := if_pos h

/-- New arrows to other nodes that close a cycle are refused with a cycle. -/
theorem setReads_of_not_mem (hc : graph.Coherent) (hself : node ∉ set)
    (h : ¬ (graph.rewire node set).Acyclic) :
    ∃ path, graph.setReads node set = (.error (.cycle path), graph) := by
  cases hcycle : (graph.rewire node set).cycle? with
  | none => exact absurd (Adjacency.cycle?_eq_none_iff.mp hcycle) h
  | some path =>
    refine ⟨path, ?_⟩
    simp only [setReads, if_neg hself, hcycle, hc.rewire_rewire]

/-- **New arrows that close a cycle are refused, and the graph stays what it was.** -/
theorem setReads_of_not_acyclic (hc : graph.Coherent) (h : ¬ (graph.rewire node set).Acyclic) :
    ∃ error, graph.setReads node set = (.error error, graph) := by
  by_cases hself : node ∈ set
  · exact ⟨_, setReads_of_mem hself⟩
  · obtain ⟨path, hpath⟩ := setReads_of_not_mem hc hself h
    exact ⟨_, hpath⟩

/-- **Why arrows are refused.** -/
theorem setReads_fst_eq_error {error : CycleError}
    (h : (graph.setReads node set).1 = .error error) :
    (error = .selfReference node ∧ node ∈ set) ∨
      ∃ path, error = .cycle path ∧ (graph.rewire node set).cycle? = some path := by
  by_cases hself : node ∈ set
  · rw [setReads_of_mem hself] at h
    exact Or.inl ⟨(Except.error.inj h).symm, hself⟩
  · cases hcycle : (graph.rewire node set).cycle? with
    | none =>
      simp only [setReads, if_neg hself, hcycle] at h
      cases h
    | some path =>
      simp only [setReads, if_neg hself, hcycle] at h
      exact Or.inr ⟨path, (Except.error.inj h).symm, rfl⟩

/-- New arrows are accepted exactly when they close no cycle. -/
theorem setReads_fst_eq_ok_iff :
    (graph.setReads node set).1 = .ok () ↔ (graph.rewire node set).Acyclic := by
  constructor
  · intro hok
    by_cases hself : node ∈ set
    · rw [setReads_of_mem hself] at hok
      cases hok
    · refine Adjacency.cycle?_eq_none_iff.mp ?_
      cases hcycle : (graph.rewire node set).cycle? with
      | none => exact hcycle
      | some path =>
        simp only [setReads, if_neg hself, hcycle] at hok
        cases hok
  · intro ha
    rw [setReads_of_acyclic ha]

/-- A node that is among its own targets is refused for that. -/
theorem setReads_fst_eq_self_iff :
    (graph.setReads node set).1 = .error (.selfReference node) ↔ node ∈ set := by
  constructor
  · intro h
    obtain ⟨-, hself⟩ | ⟨path, hpath, -⟩ := setReads_fst_eq_error h
    · exact hself
    · cases hpath
  · intro hself
    rw [setReads_of_mem hself]

/-! ### Which new arrows close a cycle -/

section Closing
open Relation

/-- A way in the rewired graph either uses old arrows only or passes through the node. -/
theorem transGen_rewire_cases {a b : String} (h : TransGen (graph.rewire node set).Reads a b) :
    TransGen graph.Reads a b ∨ TransGen (graph.rewire node set).Reads node b ∧
      ReflTransGen (graph.rewire node set).Reads a node := by
  induction h with
  | single hb =>
    by_cases ha : a = node
    · subst ha
      exact Or.inr ⟨.single hb, .refl⟩
    · exact Or.inl (.single ((reads_rewire_of_ne ha).mp hb))
  | @tail b c hab hbc ih =>
    rcases ih with ih | ⟨hnode, hback⟩
    · by_cases hb : b = node
      · subst hb
        exact Or.inr ⟨.single hbc, hab.to_reflTransGen⟩
      · exact Or.inl (ih.tail ((reads_rewire_of_ne hb).mp hbc))
    · exact Or.inr ⟨hnode.tail hbc, hback⟩

/-- A way that cannot reach the node is the same in the rewired graph. -/
theorem reflTransGen_of_rewire {a b : String}
    (ha : ¬ ReflTransGen graph.Reads a node)
    (h : ReflTransGen (graph.rewire node set).Reads a b) : ReflTransGen graph.Reads a b := by
  induction h with
  | refl => exact .refl
  | tail _ hbc ih =>
    refine ih.tail ((reads_rewire_of_ne ?_).mp hbc)
    rintro rfl
    exact ha ih

/-- A way to the node is still there when the node's own arrows are replaced. -/
theorem reflTransGen_rewire {a : String} (h : ReflTransGen graph.Reads a node) :
    ReflTransGen (graph.rewire node set).Reads a node := by
  induction h using ReflTransGen.head_induction_on with
  | refl => exact .refl
  | @head a b hab _ ih =>
    by_cases ha : a = node
    · rw [ha]
    · exact ih.head ((reads_rewire_of_ne ha).mpr hab)

/-- **New arrows close a cycle exactly when a new target leads back to the node.** -/
theorem not_acyclic_rewire_iff (h : graph.Acyclic) :
    ¬ (graph.rewire node set).Acyclic ↔ ∃ target ∈ set, ReflTransGen graph.Reads target node := by
  constructor
  · intro hcycle
    by_contra hnone
    refine hcycle fun a ha => ?_
    -- A cycle that avoids the node is an old one; any other gives a way from the node to itself.
    have hnode : TransGen (graph.rewire node set).Reads node node := by
      rcases transGen_rewire_cases ha with hold | ⟨hout, hback⟩
      · exact absurd hold (h a)
      · exact hout.trans_left hback
    obtain ⟨target, htarget, hback⟩ := TransGen.head'_iff.mp hnode
    refine hnone ⟨target, reads_rewire_self.mp htarget, ?_⟩
    by_contra hno
    exact hno (reflTransGen_of_rewire hno hback)
  · rintro ⟨target, hmem, hback⟩ hacyclic
    exact hacyclic node (TransGen.head' (reads_rewire_self.mpr hmem) (reflTransGen_rewire hback))

/-- **Which nodes lead to a node does not depend on the arrows of the node itself,** unless they
close a cycle. -/
theorem transGen_of_kept {first second : DependencyGraph} {a : String} (ha : second.Acyclic)
    (hkept : ∀ b, b ≠ node → second.reads.targets b = first.reads.targets b)
    (h : TransGen second.Reads a node) : TransGen first.Reads a node := by
  have hne : ∀ {b}, TransGen second.Reads b node → b ≠ node := by
    rintro b hway rfl
    exact ha b hway
  have hread : ∀ {b c}, TransGen second.Reads b node → second.Reads b c → first.Reads b c := by
    intro b c hway hbc
    rwa [Reads, Adjacency.Arrow, hkept b (hne hway)] at hbc
  induction h using TransGen.head_induction_on with
  | single hab => exact .single (hread (.single hab) hab)
  | head hab hway ih => exact .head (hread (.head hab hway) hab) ih

/-- A cycle that new arrows of a node close leads through the node. -/
theorem mem_of_isLoop_rewire {path : List String} (ha : graph.Acyclic)
    (h : (graph.rewire node set).reads.IsLoop path) : node ∈ path := by
  by_contra hnone
  obtain ⟨first, rest, rfl, hnodup, hchain⟩ := h
  have hold : (first :: (rest ++ [first])).IsChain graph.Reads :=
    hchain.imp_of_mem_imp fun a b hmem _ hab =>
      (reads_rewire_of_ne (ne_of_mem_of_not_mem hmem hnone)).mp hab
  obtain ⟨a, hcycle⟩ := Adjacency.IsLoop.exists_cycle ⟨first, rest, rfl, hnodup, hold⟩
  exact ha a hcycle

end Closing
end DependencyGraph
end Gridcalc
