import Gridcalc.Dependency.Order
import Gridcalc.Proofs.Dependency.Graph

/-! # Orders of calculation

An order of a graph lists its nodes once each, and no node before one that it reads
(`DependencyGraph.IsOrder`).  A graph without cycles has one, and `order?` returns it
(`Inverse.exists_order`); of its two maps it only matters that they are inverse to each other.

The proof follows the queue.  At any moment some nodes are done and some wait in the queue;
together these are exactly the nodes whose reads are all done, and the counts say how many
reads of each node are left (`Front`).  One round keeps this (`Front.next`), so at the end,
when the queue is empty, a node is done as soon as everything it reads is.  In a graph
without cycles that is every node.
-/
namespace Gridcalc
namespace DependencyGraph
variable {graph : DependencyGraph}

/-- **An order of calculation**: every node once, and none before a node it reads. -/
structure IsOrder (graph : DependencyGraph) (order : List String) : Prop where
  nodup : order.Nodup
  mem_iff : ∀ a, a ∈ order ↔ a ∈ graph.nodes
  sorted : order.Pairwise fun a b => ¬ graph.Reads a b

/-! ### Telling readers that a node is done -/

/-- After a node is done, its readers wait for one node less, and those that now wait for
none are released. -/
theorem release_spec : ∀ (readers : List String) (waiting : Waiting), readers.Nodup →
    (release waiting readers).1 =
        readers.filter (fun a => waiting[a]?.map (· - 1) = some 0) ∧
      ∀ a, (release waiting readers).2[a]? =
        if a ∈ readers then waiting[a]?.map (· - 1) else waiting[a]?
  | [], waiting, _ => by simp [release]
  | node :: rest, waiting, hnodup => by
    obtain ⟨hnode, hrest⟩ := List.nodup_cons.mp hnodup
    cases hwait : waiting[node]? with
    | none =>
      obtain ⟨h₁, h₂⟩ := release_spec rest waiting hrest
      rw [release, hwait]
      refine ⟨by simp only [h₁]; rw [List.filter_cons_of_neg (by simp [hwait])], fun a => ?_⟩
      by_cases ha : a = node
      · subst ha
        simp [h₂, hnode, hwait]
      · simp [h₂, ha]
    | some count =>
      obtain ⟨h₁, h₂⟩ := release_spec rest (waiting.insert node (count - 1)) hrest
      have hother : ∀ a, a ≠ node → (waiting.insert node (count - 1))[a]? = waiting[a]? := by
        intro a ha
        rw [Std.ExtTreeMap.getElem?_insert, if_neg (by simpa using Ne.symm ha)]
      rw [release, hwait]
      refine ⟨?_, fun a => ?_⟩
      · have hfilter : (release (waiting.insert node (count - 1)) rest).1 =
            rest.filter (fun a => waiting[a]?.map (· - 1) = some 0) := by
          rw [h₁]
          refine List.filter_congr fun a ha => ?_
          rw [hother a fun he => hnode (he ▸ ha)]
        by_cases hzero : count - 1 = 0
        · rw [List.filter_cons_of_pos (by simp [hwait, hzero]), ← hfilter]
          simp [hzero]
        · rw [List.filter_cons_of_neg (by simp [hwait, hzero]), ← hfilter]
          simp [hzero]
      · simp only [h₂]
        by_cases ha : a = node
        · subst ha
          simp [hnode, hwait]
        · simp [ha, hother a ha]

/-! ### One round -/

/-- How many of the nodes that `a` reads are not done. -/
def openReads (graph : DependencyGraph) (done : List String) (a : String) : Nat :=
  (graph.reads.targets a).toList.countP fun b => b ∉ done

theorem openReads_eq_zero {done : List String} {a : String} :
    graph.openReads done a = 0 ↔ ∀ b, graph.Reads a b → b ∈ done := by
  rw [openReads, List.countP_eq_zero]
  constructor
  · intro h b hb
    simpa using h b (Adjacency.mem_toList_targets.mpr hb)
  · intro h b hb
    simpa using h b (Adjacency.mem_toList_targets.mp hb)

theorem countP_not_mem_concat {done : List String} {node : String} (hnode : node ∉ done) :
    ∀ {l : List String}, l.Nodup →
      l.countP (fun b => b ∉ done) =
        l.countP (fun b => b ∉ done ++ [node]) + if node ∈ l then 1 else 0
  | [], _ => rfl
  | b :: rest, hnodup => by
    obtain ⟨hb, hrest⟩ := List.nodup_cons.mp hnodup
    have ih := countP_not_mem_concat hnode hrest
    rw [List.countP_cons, List.countP_cons, ih]
    by_cases he : b = node
    · subst he
      simp [hnode, hb]
    · have he' : node ≠ b := Ne.symm he
      simp [he, he']
      omega

theorem openReads_concat_of_reads {done : List String} {node a : String} (hnode : node ∉ done)
    (ha : graph.Reads a node) :
    graph.openReads (done ++ [node]) a = graph.openReads done a - 1 := by
  rw [openReads, openReads, countP_not_mem_concat hnode (NodeSet.nodup_toList _),
    if_pos (Adjacency.mem_toList_targets.mpr ha)]
  rfl

theorem openReads_concat_of_not_reads {done : List String} {node a : String}
    (hnode : node ∉ done) (ha : ¬ graph.Reads a node) :
    graph.openReads (done ++ [node]) a = graph.openReads done a := by
  rw [openReads, openReads, countP_not_mem_concat hnode (NodeSet.nodup_toList _),
    if_neg (mt Adjacency.mem_toList_targets.mp ha)]
  rfl

/-- **Where draining stands**: some nodes are done, some wait in the queue, and these are
the nodes whose reads are all done. -/
structure Front (graph : DependencyGraph) (done queue : List String) (waiting : Waiting) :
    Prop where
  nodup : (done ++ queue).Nodup
  mem_iff : ∀ a, a ∈ done ++ queue ↔ a ∈ graph.nodes ∧ ∀ b, graph.Reads a b → b ∈ done
  count : ∀ a, a ∈ graph.nodes → waiting[a]? = some (graph.openReads done a)
  sorted : done.Pairwise fun a b => ¬ graph.Reads a b

theorem front_sources (graph : DependencyGraph) : Front graph [] graph.sources graph.waiting where
  nodup := (NodeSet.nodup_toList _).filter _
  mem_iff := by
    intro a
    rw [List.nil_append, sources, List.mem_filter, Std.ExtTreeSet.mem_toList,
      Std.ExtTreeSet.isEmpty_iff]
    constructor
    · rintro ⟨ha, hempty⟩
      refine ⟨ha, fun b hb => ?_⟩
      rw [Reads, Adjacency.Arrow, hempty] at hb
      exact absurd hb Std.ExtTreeSet.not_mem_empty
    · rintro ⟨ha, hnone⟩
      refine ⟨ha, Std.ExtTreeSet.ext_mem fun b => ?_⟩
      exact ⟨fun hb => absurd (hnone b hb) List.not_mem_nil,
        fun hb => absurd hb Std.ExtTreeSet.not_mem_empty⟩
  count := by
    intro a ha
    have hsize : graph.openReads [] a = (graph.reads.targets a).size := by
      simp [openReads, Std.ExtTreeSet.length_toList]
    rw [waiting, hsize]
    have hnodes := Std.ExtTreeSet.distinct_toList (t := graph.nodes)
    have hdistinct : (graph.nodes.toList.map fun node =>
        (node, (graph.reads.targets node).size)).Pairwise
        fun first second => ¬ compare first.1 second.1 = .eq := List.pairwise_map.mpr hnodes
    exact Std.ExtTreeMap.getElem?_ofList_of_mem Std.ReflCmp.compare_self hdistinct
      (List.mem_map.mpr ⟨a, Std.ExtTreeSet.mem_toList.mpr ha, rfl⟩)
  sorted := .nil

section Round
variable {done queue : List String} {node : String} {waiting : Waiting}

theorem Front.not_mem_done (h : Front graph done (node :: queue) waiting) : node ∉ done :=
  fun hmem => (List.nodup_append.mp h.nodup).2.2 node hmem node List.mem_cons_self rfl

/-- A reader of the node at the front of the queue has not had its turn. -/
theorem Front.not_mem_of_reads (h : Front graph done (node :: queue) waiting) {a : String}
    (ha : graph.Reads a node) : a ∉ done ++ node :: queue :=
  fun hmem => h.not_mem_done (((h.mem_iff a).mp hmem).2 node ha)

theorem Inverse.mem_toList_readers (hi : graph.Inverse) {a : String} :
    a ∈ (graph.readers.targets node).toList ↔ graph.Reads a node := by
  rw [Adjacency.mem_toList_targets, Reads, hi]

/-- **One round**: the front of the queue is done, and what it releases joins the queue. -/
theorem Front.next (hi : graph.Inverse) (h : Front graph done (node :: queue) waiting) :
    Front graph (done ++ [node])
      (queue ++ (release waiting (graph.readers.targets node).toList).1)
      (release waiting (graph.readers.targets node).toList).2 := by
  obtain ⟨hready, hleft⟩ := release_spec (graph.readers.targets node).toList waiting
    (NodeSet.nodup_toList _)
  have hnode := h.not_mem_done
  have hmemReady : ∀ a, a ∈ (release waiting (graph.readers.targets node).toList).1 ↔
      graph.Reads a node ∧ ∀ b, graph.Reads a b → b ∈ done ++ [node] := by
    intro a
    rw [hready, List.mem_filter, hi.mem_toList_readers, ← openReads_eq_zero]
    refine and_congr_right fun ha => ?_
    rw [h.count a ha.mem_nodes, openReads_concat_of_reads hnode ha]
    simp
  have hsplit : ∀ more, done ++ [node] ++ (queue ++ more) = done ++ node :: queue ++ more := by
    simp
  refine ⟨?_, fun a => ?_, fun a ha => ?_, ?_⟩
  · rw [hsplit]
    refine List.nodup_append.mpr ⟨h.nodup, ?_, ?_⟩
    · rw [hready]
      exact (NodeSet.nodup_toList _).filter _
    · rintro a ha b hb rfl
      exact h.not_mem_of_reads ((hmemReady a).mp hb).1 ha
  · rw [hsplit, List.mem_append, h.mem_iff, hmemReady]
    constructor
    · rintro (⟨ha, hdone⟩ | ⟨ha, hdone⟩)
      · exact ⟨ha, fun b hb => List.mem_append_left _ (hdone b hb)⟩
      · exact ⟨ha.mem_nodes, hdone⟩
    · rintro ⟨ha, hdone⟩
      by_cases hreads : graph.Reads a node
      · exact Or.inr ⟨hreads, hdone⟩
      · refine Or.inl ⟨ha, fun b hb => ?_⟩
        rcases List.mem_append.mp (hdone b hb) with hmem | hmem
        · exact hmem
        · rw [List.mem_singleton] at hmem
          exact absurd (hmem ▸ hb) hreads
  · rw [hleft, h.count a ha]
    split <;> rename_i hreads <;> rw [hi.mem_toList_readers] at hreads
    · rw [openReads_concat_of_reads hnode hreads]
      rfl
    · rw [openReads_concat_of_not_reads hnode hreads]
  · refine List.pairwise_append.mpr ⟨h.sorted, List.pairwise_singleton _ _, ?_⟩
    intro a ha b hb hreads
    rw [List.mem_singleton] at hb
    subst hb
    exact h.not_mem_of_reads hreads (List.mem_append_left _ ha)

end Round

/-! ### All rounds -/

theorem Front.length_le {done queue : List String} {waiting : Waiting}
    (h : Front graph done queue waiting) : (done ++ queue).length ≤ graph.size := by
  rw [size, ← Std.ExtTreeSet.length_toList]
  refine (List.subperm_of_subset h.nodup fun a ha => ?_).length_le
  exact Std.ExtTreeSet.mem_toList.mpr ((h.mem_iff a).mp ha).1

/-- With a round for every node that is not done, the queue runs empty. -/
theorem drain_front (hi : graph.Inverse) : ∀ (rounds : Nat) (done queue : List String)
    (waiting : Waiting), Front graph done queue waiting → graph.size ≤ rounds + done.length →
    ∃ left, Front graph (done ++ graph.drain rounds queue waiting) [] left
  | 0, done, queue, waiting, h, hrounds => by
    have hle := h.length_le
    rw [List.length_append] at hle
    have hqueue : queue = [] := List.length_eq_zero_iff.mp (by omega)
    subst hqueue
    exact ⟨waiting, by simpa [drain] using h⟩
  | rounds + 1, done, [], waiting, h, _ => ⟨waiting, by simpa [drain] using h⟩
  | rounds + 1, done, node :: queue, waiting, h, hrounds => by
    have hlength : graph.size ≤ rounds + (done ++ [node]).length := by
      rw [List.length_append, List.length_singleton]
      omega
    obtain ⟨left, hleft⟩ := drain_front hi rounds _ _ _ (h.next hi) hlength
    refine ⟨left, ?_⟩
    rw [drain]
    simpa using hleft

theorem front_drained (hi : graph.Inverse) : ∃ left, Front graph graph.drained [] left := by
  obtain ⟨left, hleft⟩ := drain_front hi graph.size [] graph.sources graph.waiting
    (front_sources graph) (Nat.le_refl _)
  exact ⟨left, hleft⟩

/-- **A graph without cycles has an order, and `order?` returns it.** -/
theorem Inverse.exists_order (hi : graph.Inverse) (ha : graph.Acyclic) :
    ∃ order, graph.order? = some order ∧ graph.IsOrder order := by
  obtain ⟨left, h⟩ := front_drained hi
  have hready : ∀ a, a ∈ graph.drained ↔
      a ∈ graph.nodes ∧ ∀ b, graph.Reads a b → b ∈ graph.drained := by
    simpa using h.mem_iff
  -- Arrows are well-founded, so a node gets its turn once all it reads have had theirs.
  have hall : ∀ a, a ∈ graph.nodes → a ∈ graph.drained := by
    intro a
    induction a using ha.wellFounded.induction with
    | _ a ih =>
      intro hnode
      exact (hready a).mpr ⟨hnode, fun b hb => ih b hb (hi.mem_nodes hb)⟩
  have hsize : graph.size ≤ graph.drained.length := by
    rw [size, ← Std.ExtTreeSet.length_toList]
    refine (List.subperm_of_subset (NodeSet.nodup_toList _) fun a hmem => ?_).length_le
    exact hall a (Std.ExtTreeSet.mem_toList.mp hmem)
  refine ⟨graph.drained, if_neg (Nat.not_lt.mpr hsize), ?_, fun a => ?_, h.sorted⟩
  · simpa using h.nodup
  · exact ⟨fun hmem => ((hready a).mp hmem).1, hall a⟩

theorem exists_order (hc : graph.Coherent) (ha : graph.Acyclic) :
    ∃ order, graph.order? = some order ∧ graph.IsOrder order :=
  Inverse.exists_order hc.inverse ha

end DependencyGraph
end Gridcalc
