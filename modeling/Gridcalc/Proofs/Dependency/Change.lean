import Gridcalc.Proofs.Dependency.Graph

/-! # Changes of a graph

Four calls change a graph, and each of them gives one node other arrows.  On a coherent graph
adding an arrow is a rewiring of its source (`Coherent.link_eq_rewire`), so what is known of
rewiring holds of it.  An arrow that was added and is removed again leaves no trace
(`Coherent.removeRead_link`), with cycles elsewhere or without.

`setReads` and `addRead` either refuse and give back the graph, or make their change
(`Coherent.setReads_cases`, `Coherent.addRead_cases`).  On a graph without cycles a new arrow
closes one exactly when its target leads to its source (`not_acyclic_link_iff`), so it can be told
beforehand which calls are refused.  Every call keeps a coherent graph without cycles coherent
and without cycles (`sound_change`), and so does any run of calls (`sound_changed`).
-/
namespace Gridcalc.DependencyGraph
open Relation
variable {graph : DependencyGraph} {node source target a b : String} {set : NodeSet}

/-! ### One arrow -/

theorem reads_link :
    (graph.link source target).Reads a b ↔ (a = source ∧ b = target) ∨ graph.Reads a b :=
  Adjacency.arrow_link

theorem reads_removeRead :
    (graph.removeRead source target).Reads a b ↔
      graph.Reads a b ∧ ¬ (a = source ∧ b = target) :=
  Adjacency.arrow_unlink

theorem Coherent.link (h : graph.Coherent) (source target : String) :
    (graph.link source target).Coherent where
  inverse a b := by
    rw [DependencyGraph.link, Adjacency.arrow_link, Adjacency.arrow_link, h.inverse, and_comm]
  reads_tidy := h.reads_tidy.link
  readers_tidy := h.readers_tidy.link

theorem Coherent.removeRead (h : graph.Coherent) (source target : String) :
    (graph.removeRead source target).Coherent where
  inverse a b := by
    rw [DependencyGraph.removeRead, Adjacency.arrow_unlink, Adjacency.arrow_unlink, h.inverse,
      and_comm (a := a = source)]
  reads_tidy := h.reads_tidy.unlink
  readers_tidy := h.readers_tidy.unlink

theorem Coherent.link_eq_rewire (h : graph.Coherent) : graph.link source target =
    graph.rewire source ((graph.reads.targets source).insert target) := by
  refine (h.link _ _).ext (h.rewire _ _) fun a => ?_
  rw [targets_rewire]
  exact Adjacency.targets_insert _

/-- **Removing an arrow undoes adding it.** -/
theorem Coherent.removeRead_link (h : graph.Coherent) (hnew : ¬ graph.Reads source target) :
    (graph.link source target).removeRead source target = graph := by
  refine ((h.link source target).removeRead source target).ext_reads h fun a b => ?_
  rw [reads_removeRead, reads_link]
  constructor
  · rintro ⟨hadded | hab, hne⟩
    · exact absurd hadded hne
    · exact hab
  · intro hab
    refine ⟨Or.inr hab, ?_⟩
    rintro ⟨rfl, rfl⟩
    exact hnew hab

/-- Adding an arrow that is there already changes nothing. -/
theorem Coherent.link_of_reads (h : graph.Coherent) (hold : graph.Reads source target) :
    graph.link source target = graph := by
  refine (h.link source target).ext_reads h fun a b => ?_
  rw [reads_link]
  refine or_iff_right_of_imp ?_
  rintro ⟨rfl, rfl⟩
  exact hold

/-- A graph of any list of arrows is coherent, also when they close cycles. -/
theorem coherent_ofEdges (edges : List (String × String)) : (ofEdges edges).Coherent := by
  have hall : ∀ (edges : List (String × String)) (graph : DependencyGraph), graph.Coherent →
      (edges.foldl (fun graph edge => graph.link edge.1 edge.2) graph).Coherent := by
    intro edges
    induction edges with
    | nil => exact fun _ hc => hc
    | cons edge rest ih => exact fun graph hc => ih _ (hc.link edge.1 edge.2)
  exact hall edges ∅ coherent_empty

theorem Acyclic.removeRead (h : graph.Acyclic) : (graph.removeRead source target).Acyclic :=
  h.mono fun _ _ hab => (reads_removeRead.mp hab).1

/-- **A new arrow closes a cycle exactly when its target leads to its source.** -/
theorem not_acyclic_link_iff (hc : graph.Coherent) (h : graph.Acyclic) :
    ¬ (graph.link source target).Acyclic ↔ ReflTransGen graph.Reads target source := by
  rw [hc.link_eq_rewire, not_acyclic_rewire_iff h]
  constructor
  · rintro ⟨next, hnext, hback⟩
    rw [Std.ExtTreeSet.mem_insert, Std.compare_eq_iff_eq] at hnext
    rcases hnext with rfl | hold
    · exact hback
    · -- An old target that leads back would have been a cycle already.
      have hread : graph.Reads source next := hold
      exact absurd (TransGen.head' hread hback) (h source)
  · intro hback
    exact ⟨target, Std.ExtTreeSet.mem_insert_self, hback⟩

/-! ### What a call does -/

/-- **What `setReads` does**: it refuses a self reference or a cycle and gives back the graph,
or it rewires the node. -/
theorem Coherent.setReads_cases (hc : graph.Coherent) (node : String) (set : NodeSet) :
    (node ∈ set ∧ graph.setReads node set = (.error (.selfReference node), graph)) ∨
    (node ∉ set ∧ ¬ (graph.rewire node set).Acyclic ∧
      ∃ path, graph.setReads node set = (.error (.cycle path), graph)) ∨
    (node ∉ set ∧ (graph.rewire node set).Acyclic ∧
      graph.setReads node set = (.ok (), graph.rewire node set)) := by
  by_cases hself : node ∈ set
  · exact Or.inl ⟨hself, setReads_of_mem hself⟩
  by_cases ha : (graph.rewire node set).Acyclic
  · exact Or.inr (Or.inr ⟨hself, ha, setReads_of_acyclic ha⟩)
  · exact Or.inr (Or.inl ⟨hself, ha, setReads_of_not_mem hc hself ha⟩)

/-- **What `addRead` does**: it refuses a self reference or a cycle and gives back the graph, or
it adds the arrow.  For an arrow that is there already no cycle is looked for. -/
theorem Coherent.addRead_cases (hc : graph.Coherent) (source target : String) :
    (source = target ∧ graph.addRead source target = (.error (.selfReference source), graph)) ∨
    (source ≠ target ∧ ¬ (graph.link source target).Acyclic ∧
      ∃ path, graph.addRead source target = (.error (.cycle path), graph)) ∨
    (source ≠ target ∧ (graph.Reads source target ∨ (graph.link source target).Acyclic) ∧
      graph.addRead source target = (.ok (), graph.link source target)) := by
  by_cases hself : source = target
  · exact Or.inl ⟨hself, if_pos hself⟩
  by_cases hold : target ∈ graph.reads.targets source
  · -- There may be a cycle elsewhere here, which is not noticed.
    refine Or.inr (Or.inr ⟨hself, Or.inl hold, ?_⟩)
    rw [addRead, if_neg hself, if_pos hold, hc.link_of_reads hold]
  cases hcycle : (graph.link source target).cycle? with
  | none =>
    refine Or.inr (Or.inr ⟨hself, Or.inr (Adjacency.cycle?_eq_none_iff.mp hcycle), ?_⟩)
    simp only [addRead, if_neg hself, if_neg hold, hcycle]
  | some path =>
    have ha : ¬ (graph.link source target).Acyclic := by
      intro ha
      have hnone : (graph.link source target).cycle? = none := Adjacency.cycle?_eq_none_iff.mpr ha
      rw [hnone] at hcycle
      cases hcycle
    refine Or.inr (Or.inl ⟨hself, ha, path, ?_⟩)
    simp only [addRead, if_neg hself, if_neg hold, hcycle, hc.removeRead_link hold]

/-! ### What a call answers -/

section Answers
variable (hc : graph.Coherent)
include hc

theorem setReads_snd_of_ok (h : (graph.setReads node set).1 = .ok ()) :
    (graph.setReads node set).2 = graph.rewire node set := by
  obtain ⟨-, he⟩ | ⟨-, -, path, he⟩ | ⟨-, -, he⟩ := hc.setReads_cases node set
  · rw [he] at h
    cases h
  · rw [he] at h
    cases h
  · rw [he]

theorem setReads_snd_of_error {error : CycleError}
    (h : (graph.setReads node set).1 = .error error) : (graph.setReads node set).2 = graph := by
  obtain ⟨-, he⟩ | ⟨-, -, path, he⟩ | ⟨-, -, he⟩ := hc.setReads_cases node set
  · rw [he]
  · rw [he]
  · rw [he] at h
    cases h

theorem addRead_snd_of_ok (h : (graph.addRead source target).1 = .ok ()) :
    (graph.addRead source target).2 = graph.link source target := by
  obtain ⟨-, he⟩ | ⟨-, -, path, he⟩ | ⟨-, -, he⟩ := hc.addRead_cases source target
  · rw [he] at h
    cases h
  · rw [he] at h
    cases h
  · rw [he]

theorem addRead_snd_of_error {error : CycleError}
    (h : (graph.addRead source target).1 = .error error) :
    (graph.addRead source target).2 = graph := by
  obtain ⟨-, he⟩ | ⟨-, -, path, he⟩ | ⟨-, -, he⟩ := hc.addRead_cases source target
  · rw [he]
  · rw [he]
  · rw [he] at h
    cases h

theorem setReads_selfReference_iff :
    (∃ name, (graph.setReads node set).1 = .error (.selfReference name)) ↔ node ∈ set := by
  constructor
  · rintro ⟨name, hname⟩
    obtain ⟨hself, -⟩ | ⟨-, -, path, he⟩ | ⟨-, -, he⟩ := hc.setReads_cases node set
    · exact hself
    · rw [he] at hname
      cases hname
    · rw [he] at hname
      cases hname
  · intro hself
    exact ⟨node, by rw [setReads_of_mem hself]⟩

variable (ha : graph.Acyclic)
include ha

/-- **A cycle is reported exactly when a new target leads to the node.** -/
theorem setReads_cycle_iff :
    (∃ path, (graph.setReads node set).1 = .error (.cycle path)) ↔
      node ∉ set ∧ ∃ target ∈ set, TransGen graph.Reads target node := by
  constructor
  · rintro ⟨path, hpath⟩
    obtain ⟨-, he⟩ | ⟨hself, hclosed, -⟩ | ⟨-, -, he⟩ := hc.setReads_cases node set
    · rw [he] at hpath
      cases hpath
    · obtain ⟨target, htarget, hback⟩ := (not_acyclic_rewire_iff ha).mp hclosed
      refine ⟨hself, target, htarget, (reflTransGen_iff_eq_or_transGen.mp hback).resolve_left ?_⟩
      rintro rfl
      exact hself htarget
    · rw [he] at hpath
      cases hpath
  · rintro ⟨hself, target, htarget, hback⟩
    obtain ⟨path, hpath⟩ := setReads_of_not_mem hc hself
      ((not_acyclic_rewire_iff ha).mpr ⟨target, htarget, hback.to_reflTransGen⟩)
    exact ⟨path, by rw [hpath]⟩

/-- An arrow that is there already, or closes no cycle, leaves the graph without one. -/
theorem acyclic_link (h : graph.Reads source target ∨ (graph.link source target).Acyclic) :
    (graph.link source target).Acyclic := by
  rcases h with hold | h
  · rwa [hc.link_of_reads hold]
  · exact h

/-- **An arrow is refused exactly when its target is its source or leads to it.** -/
theorem addRead_error_iff :
    (∃ error, (graph.addRead source target).1 = .error error) ↔
      source = target ∨ TransGen graph.Reads target source := by
  rw [← reflTransGen_iff_eq_or_transGen, ← not_acyclic_link_iff hc ha]
  obtain ⟨rfl, he⟩ | ⟨-, hclosed, path, he⟩ | ⟨-, hopen, he⟩ := hc.addRead_cases source target
  · have hclosed : ¬ (graph.link source source).Acyclic :=
      (not_acyclic_link_iff hc ha).mpr .refl
    exact ⟨fun _ => hclosed, fun _ => ⟨_, by rw [he]⟩⟩
  · exact ⟨fun _ => hclosed, fun _ => ⟨_, by rw [he]⟩⟩
  · refine ⟨?_, fun hclosed => absurd (acyclic_link hc ha hopen) hclosed⟩
    rintro ⟨error, herror⟩
    rw [he] at herror
    cases herror

end Answers

/-! ### Runs of calls -/

/-- A call that changes a graph. -/
inductive Change where
  | setReads (node : String) (targets : NodeSet)
  | addRead (source target : String)
  | removeRead (source target : String)
  | clearReads (node : String)

/-- The graph after a call, which may have been refused. -/
def change (graph : DependencyGraph) : Change → DependencyGraph
  | .setReads node targets => (graph.setReads node targets).2
  | .addRead source target => (graph.addRead source target).2
  | .removeRead source target => graph.removeRead source target
  | .clearReads node => graph.clearReads node

/-- The graph after some calls. -/
def changed (graph : DependencyGraph) (changes : List Change) : DependencyGraph :=
  changes.foldl change graph

/-- **Each call keeps a graph coherent,** with cycles or without. -/
theorem Coherent.change (hc : graph.Coherent) (call : Change) : (graph.change call).Coherent := by
  cases call with
  | setReads node targets =>
    obtain ⟨-, he⟩ | ⟨-, -, path, he⟩ | ⟨-, -, he⟩ := hc.setReads_cases node targets
    · rw [DependencyGraph.change, he]
      exact hc
    · rw [DependencyGraph.change, he]
      exact hc
    · rw [DependencyGraph.change, he]
      exact hc.rewire node targets
  | addRead source target =>
    obtain ⟨-, he⟩ | ⟨-, -, path, he⟩ | ⟨-, -, he⟩ := hc.addRead_cases source target
    · rw [DependencyGraph.change, he]
      exact hc
    · rw [DependencyGraph.change, he]
      exact hc
    · rw [DependencyGraph.change, he]
      exact hc.link source target
  | removeRead source target => exact hc.removeRead source target
  | clearReads node => exact hc.rewire node ∅

theorem Coherent.changed (hc : graph.Coherent) (changes : List Change) :
    (graph.changed changes).Coherent := by
  induction changes generalizing graph with
  | nil => exact hc
  | cons call rest ih => exact ih (hc.change call)

theorem Acyclic.change (ha : graph.Acyclic) (hc : graph.Coherent) (call : Change) :
    (graph.change call).Acyclic := by
  cases call with
  | setReads node targets =>
    obtain ⟨-, he⟩ | ⟨-, -, path, he⟩ | ⟨-, hopen, he⟩ := hc.setReads_cases node targets
    · rw [DependencyGraph.change, he]
      exact ha
    · rw [DependencyGraph.change, he]
      exact ha
    · rw [DependencyGraph.change, he]
      exact hopen
  | addRead source target =>
    obtain ⟨-, he⟩ | ⟨-, -, path, he⟩ | ⟨-, hopen, he⟩ := hc.addRead_cases source target
    · rw [DependencyGraph.change, he]
      exact ha
    · rw [DependencyGraph.change, he]
      exact ha
    · rw [DependencyGraph.change, he]
      exact acyclic_link hc ha hopen
  | removeRead source target => exact ha.removeRead
  | clearReads node => exact ha.clearReads

/-- **Each call keeps a graph coherent and without cycles,** also when it is refused. -/
theorem sound_change (hc : graph.Coherent) (ha : graph.Acyclic) (call : Change) :
    (graph.change call).Coherent ∧ (graph.change call).Acyclic :=
  ⟨hc.change call, ha.change hc call⟩

theorem sound_changed (hc : graph.Coherent) (ha : graph.Acyclic) (changes : List Change) :
    (graph.changed changes).Coherent ∧ (graph.changed changes).Acyclic := by
  induction changes generalizing graph with
  | nil => exact ⟨hc, ha⟩
  | cons call rest ih =>
    obtain ⟨hc', ha'⟩ := sound_change hc ha call
    exact ih hc' ha'

/-- **After any calls the two maps are exact inverses without empty entries,** so that the nodes
are the ends of the arrows, and no node reads itself, directly or through others. -/
theorem inverse_acyclic_after_changes (changes : List Change) :
    (∀ a b, b ∈ (changed ∅ changes).reads.targets a ↔
      a ∈ (changed ∅ changes).readers.targets b) ∧
    (∀ a : String, (changed ∅ changes).reads[a]? ≠ some ∅ ∧
      (changed ∅ changes).readers[a]? ≠ some ∅) ∧
    (∀ a, a ∈ (changed ∅ changes).nodes ↔
      ∃ b, (changed ∅ changes).Reads a b ∨ (changed ∅ changes).Reads b a) ∧
    (∀ a, ¬ (changed ∅ changes).Reads a a) ∧
    ∀ a, ¬ TransGen (changed ∅ changes).Reads a a := by
  obtain ⟨hc, ha⟩ := sound_changed coherent_empty acyclic_empty changes
  exact ⟨hc.inverse, fun a => ⟨hc.reads_tidy.getElem?_ne a, hc.readers_tidy.getElem?_ne a⟩,
    fun a => hc.mem_nodes, fun a hself => ha a (.single hself), ha⟩

/-- **Calls refuse exactly the cycles, and a refusal changes nothing.**  After any calls,
`setReads` answers with a self reference exactly when the node is among its targets, and with a
cycle exactly when another target leads to it; `addRead` fails exactly when its target is its
source or leads to it.  What goes through changes the arrows of one node as it was told.  On any
coherent graph, with cycles or without, a call that fails gives back the graph itself. -/
theorem refused_iff_cycle :
    (∀ (changes : List Change) (graph : DependencyGraph), graph = changed ∅ changes →
      (∀ (node : String) (set : NodeSet),
        ((∃ name, (graph.setReads node set).1 = .error (.selfReference name)) ↔ node ∈ set) ∧
        ((∃ path, (graph.setReads node set).1 = .error (.cycle path)) ↔
          node ∉ set ∧ ∃ target ∈ set, TransGen graph.Reads target node) ∧
        ((graph.setReads node set).1 = .ok () →
          (graph.setReads node set).2.reads.targets node = set ∧
          ∀ other, other ≠ node →
            (graph.setReads node set).2.reads.targets other = graph.reads.targets other)) ∧
      ∀ source target : String,
        ((∃ error, (graph.addRead source target).1 = .error error) ↔
          source = target ∨ TransGen graph.Reads target source) ∧
        ((graph.addRead source target).1 = .ok () → ∀ a b,
          (graph.addRead source target).2.Reads a b ↔
            (a = source ∧ b = target) ∨ graph.Reads a b)) ∧
    ∀ graph : DependencyGraph, graph.Coherent →
      (∀ (node : String) (set : NodeSet) (error : CycleError),
        (graph.setReads node set).1 = .error error → (graph.setReads node set).2 = graph) ∧
      ∀ (source target : String) (error : CycleError),
        (graph.addRead source target).1 = .error error →
          (graph.addRead source target).2 = graph := by
  refine ⟨?_, fun graph hc => ⟨fun _ _ _ => setReads_snd_of_error hc,
    fun _ _ _ => addRead_snd_of_error hc⟩⟩
  rintro changes graph rfl
  obtain ⟨hc, ha⟩ := sound_changed coherent_empty acyclic_empty changes
  refine ⟨fun node set => ⟨setReads_selfReference_iff hc, setReads_cycle_iff hc ha, fun hok => ?_⟩,
    fun source target => ⟨addRead_error_iff hc ha, fun hok a b => ?_⟩⟩
  · rw [setReads_snd_of_ok hc hok]
    exact ⟨targets_rewire_self, fun other => targets_rewire_of_ne⟩
  · rw [addRead_snd_of_ok hc hok]
    exact reads_link

/-- Calls of which the third closes a cycle. -/
def loopingCalls : List Change :=
  [.setReads "B1" (.ofList ["A1"]), .addRead "C1" "B1", .addRead "A1" "C1"]

/-- Two nodes that read each other, one that reads a node of the cycle, and one apart from it. -/
def knot : DependencyGraph := ofEdges [("A1", "B1"), ("B1", "A1"), ("C1", "A1"), ("D1", "E1")]

theorem knot_refuses :
    ((changed ∅ loopingCalls).setReads "C1" (.ofList ["A1"])).2.reads.targets "B1" =
        (changed ∅ loopingCalls).reads.targets "B1" ∧
      (knot.setReads "D1" (.ofList ["E1", "F1"])).2 = knot ∧
      (knot.addRead "F1" "C1").2 = knot := by
  obtain ⟨hrun, hany⟩ := refused_iff_cycle
  obtain ⟨hset, hadd⟩ := hany knot (coherent_ofEdges _)
  obtain ⟨-, -, hok⟩ := (hrun loopingCalls _ rfl).1 "C1" (.ofList ["A1"])
  refine ⟨(hok (by decide +kernel)).2 "B1" (by decide), ?_, ?_⟩
  · exact hset "D1" (.ofList ["E1", "F1"]) (.cycle ["A1", "B1", "A1"]) (by decide +kernel)
  · exact hadd "F1" "C1" (.cycle ["A1", "B1", "A1"]) (by decide +kernel)

end Gridcalc.DependencyGraph
