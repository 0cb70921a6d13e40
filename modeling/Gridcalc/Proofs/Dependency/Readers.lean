import Gridcalc.Proofs.Dependency.Change
import Gridcalc.Proofs.Dependency.Order

/-! # Everything that reads a node

`allReaders` keeps a list of nodes whose readers are still to be looked at, and the nodes seen so
far.  `Collects` is one round of it, and leaves open which node of the list is taken and where new
ones join.  No run of rounds goes on for ever (`Inverse.wellFounded_collects`), since what joins the
list was not seen before.  What is seen when the list is empty does not depend on the turns that
were chosen: it is what reads the node, directly or through others (`Collecting.mem_iff`), and the
rounds of `allReaders` are one such run (`Inverse.collects_allReaders`).

The node itself is not seen at the start, though it stands on the list.  So it is collected only
when a way leads back to it, that is when it lies on a cycle.  Of the graph nothing is supposed but
that its two maps are inverse to each other.
-/
namespace Gridcalc
namespace DependencyGraph
open Relation
variable {graph : DependencyGraph} {node a : String} {list rest : List String} {seen : NodeSet}

/-! ### One round -/

/-- The readers of a node that were not seen before. -/
def freshReaders (graph : DependencyGraph) (seen : NodeSet) (node : String) : List String :=
  (graph.readers.targets node).toList.filter fun reader => !seen.contains reader

/-- The nodes not seen yet. -/
def unseen (graph : DependencyGraph) (seen : NodeSet) : List String :=
  graph.nodes.toList.filter fun a => !seen.contains a

theorem spread_cons (rounds : Nat) : graph.spread (rounds + 1) (node :: rest) seen =
    graph.spread rounds (graph.freshReaders seen node ++ rest)
      (seen.insertMany (graph.freshReaders seen node)) := rfl

theorem not_contains_iff : (!seen.contains a) = true ↔ a ∉ seen := by
  rw [Bool.not_eq_true', ← Bool.not_eq_true, Std.ExtTreeSet.contains_iff_mem]

theorem Inverse.mem_freshReaders (hi : graph.Inverse) :
    a ∈ graph.freshReaders seen node ↔ graph.Reads a node ∧ a ∉ seen := by
  rw [freshReaders, List.mem_filter, hi.mem_toList_readers, not_contains_iff]

theorem mem_unseen : a ∈ graph.unseen seen ↔ a ∈ graph.nodes ∧ a ∉ seen := by
  rw [unseen, List.mem_filter, Std.ExtTreeSet.mem_toList, not_contains_iff]

theorem mem_insertMany_fresh {fresh : List String} :
    a ∈ seen.insertMany fresh ↔ a ∈ seen ∨ a ∈ fresh := by
  rw [Std.ExtTreeSet.mem_insertMany_list, List.contains_iff_mem]

/-- What is seen in a round was unseen before it. -/
theorem Inverse.length_unseen (hi : graph.Inverse) (seen : NodeSet) (node : String) :
    (graph.unseen (seen.insertMany (graph.freshReaders seen node))).length +
      (graph.freshReaders seen node).length ≤ (graph.unseen seen).length := by
  rw [← List.length_append]
  refine (List.subperm_of_subset (List.nodup_append.mpr ⟨?_, ?_, ?_⟩) fun a ha => ?_).length_le
  · exact (NodeSet.nodup_toList _).filter _
  · exact (NodeSet.nodup_toList _).filter _
  · rintro a ha b hb rfl
    exact (mem_unseen.mp ha).2 (mem_insertMany_fresh.mpr (Or.inr hb))
  · rcases List.mem_append.mp ha with ha | ha
    · obtain ⟨hmem, hnot⟩ := mem_unseen.mp ha
      exact mem_unseen.mpr ⟨hmem, fun h => hnot (mem_insertMany_fresh.mpr (Or.inl h))⟩
    · obtain ⟨hreads, hnot⟩ := hi.mem_freshReaders.mp ha
      exact mem_unseen.mpr ⟨hreads.mem_nodes, hnot⟩

/-- **One round of collecting.**  Some node is taken off the list, wherever it stands.  Those of its
readers that were not seen before are seen now, and join the list at any place. -/
inductive Collects (graph : DependencyGraph) : List String × NodeSet → List String × NodeSet → Prop
  | take {list rest longer : List String} {seen : NodeSet} {node : String} :
      list.Perm (node :: rest) → longer.Perm (graph.freshReaders seen node ++ rest) →
      Collects graph (list, seen) (longer, seen.insertMany (graph.freshReaders seen node))

/-- **Collecting comes to an end,** whatever nodes are taken: with every round the nodes of the list
and the unseen ones become fewer, taken together. -/
theorem Inverse.wellFounded_collects (hi : graph.Inverse) :
    WellFounded fun next now => graph.Collects now next := by
  refine Subrelation.wf (fun {next now} h => ?_)
    (measure fun now : List String × NodeSet => now.1.length + (graph.unseen now.2).length).wf
  cases h with
  | @take list rest longer seen node hlist hlonger =>
    have hunseen := hi.length_unseen seen node
    have hlength := hlist.length_eq
    have hjoined := hlonger.length_eq
    rw [List.length_cons] at hlength
    rw [List.length_append] at hjoined
    show longer.length + (graph.unseen (seen.insertMany (graph.freshReaders seen node))).length <
      list.length + (graph.unseen seen).length
    omega

/-! ### What a run collects -/

/-- **Where collecting stands.**  All that was seen leads to the node, and whatever reads a node
that was seen, or the node itself, is seen too, unless the list still holds that node. -/
structure Collecting (graph : DependencyGraph) (node : String) (now : List String × NodeSet) :
    Prop where
  leads : ∀ x ∈ now.1, ReflTransGen graph.Reads x node
  sound : ∀ a ∈ now.2, TransGen graph.Reads a node
  closed : ∀ x, x = node ∨ x ∈ now.2 → x ∈ now.1 ∨ ∀ a, graph.Reads a x → a ∈ now.2

theorem collecting_start (graph : DependencyGraph) (node : String) :
    graph.Collecting node ([node], ∅) where
  leads x hx := List.mem_singleton.mp hx ▸ .refl
  sound a ha := absurd ha Std.ExtTreeSet.not_mem_empty
  closed x hx := by
    rcases hx with rfl | hx
    · exact Or.inl List.mem_cons_self
    · exact absurd hx Std.ExtTreeSet.not_mem_empty

theorem Collecting.next (hi : graph.Inverse) {now next : List String × NodeSet}
    (h : graph.Collecting node now) (hround : graph.Collects now next) :
    graph.Collecting node next := by
  cases hround with
  | @take list rest longer seen taken hlist hlonger =>
    have htaken : ReflTransGen graph.Reads taken node :=
      h.leads taken (hlist.mem_iff.mpr List.mem_cons_self)
    refine ⟨fun x hx => ?_, fun a ha => ?_, fun x hx => ?_⟩
    · rcases List.mem_append.mp (hlonger.mem_iff.mp hx) with hfresh | hrest
      · exact .head (hi.mem_freshReaders.mp hfresh).1 htaken
      · exact h.leads x (hlist.mem_iff.mpr (List.mem_cons_of_mem _ hrest))
    · rcases mem_insertMany_fresh.mp ha with hold | hfresh
      · exact h.sound a hold
      · exact .head' (hi.mem_freshReaders.mp hfresh).1 htaken
    · by_cases hfresh : x ∈ graph.freshReaders seen taken
      · exact Or.inl (hlonger.mem_iff.mpr (List.mem_append_left _ hfresh))
      have hold : x = node ∨ x ∈ seen :=
        hx.imp_right fun hmem => (mem_insertMany_fresh.mp hmem).resolve_right hfresh
      rcases h.closed x hold with hmem | hall
      · rcases List.mem_cons.mp (hlist.mem_iff.mp hmem) with rfl | hrest
        · -- The readers of the node that was taken were seen before, or are seen now.
          refine Or.inr fun a ha => mem_insertMany_fresh.mpr ?_
          by_cases hseen : a ∈ seen
          · exact Or.inl hseen
          · exact Or.inr (hi.mem_freshReaders.mpr ⟨ha, hseen⟩)
        · exact Or.inl (hlonger.mem_iff.mpr (List.mem_append_right _ hrest))
      · exact Or.inr fun a ha => mem_insertMany_fresh.mpr (Or.inl (hall a ha))

theorem Collecting.run (hi : graph.Inverse) {now later : List String × NodeSet}
    (hrun : ReflTransGen graph.Collects now later) (h : graph.Collecting node now) :
    graph.Collecting node later := by
  induction hrun with
  | refl => exact h
  | tail _ hround ih => exact ih.next hi hround

/-- **When the list is empty, all that leads to the node was seen, and nothing else.** -/
theorem Collecting.mem_iff (h : graph.Collecting node ([], seen)) :
    a ∈ seen ↔ TransGen graph.Reads a node := by
  have hclosed : ∀ x, x = node ∨ x ∈ seen → ∀ b, graph.Reads b x → b ∈ seen := fun x hx =>
    (h.closed x hx).resolve_left List.not_mem_nil
  constructor
  · exact h.sound a
  · intro hway
    induction hway using TransGen.head_induction_on with
    | single hb => exact hclosed node (Or.inl rfl) _ hb
    | head hab _ ih => exact hclosed _ (Or.inr ih) _ hab

/-- With a round for each node of the list and each unseen one, `spread` goes on to the end. -/
theorem Inverse.collects_spread (hi : graph.Inverse) : ∀ (rounds : Nat) (list : List String)
    (seen : NodeSet), list.length + (graph.unseen seen).length ≤ rounds →
    ReflTransGen graph.Collects (list, seen) ([], graph.spread rounds list seen)
  | 0, list, seen, h => by
    obtain rfl : list = [] := List.length_eq_zero_iff.mp (by omega)
    exact .refl
  | _ + 1, [], seen, _ => .refl
  | rounds + 1, node :: rest, seen, h => by
    have hunseen := hi.length_unseen seen node
    rw [List.length_cons] at h
    rw [spread_cons]
    refine .head (.take (.refl _) (.refl _)) (hi.collects_spread rounds _ _ ?_)
    rw [List.length_append]
    omega

theorem Inverse.collects_allReaders (hi : graph.Inverse) (node : String) :
    ReflTransGen graph.Collects ([node], ∅) ([], graph.allReaders node) := by
  refine hi.collects_spread (graph.size + 1) [node] ∅ ?_
  have hle : (graph.unseen ∅).length ≤ graph.nodes.toList.length := List.length_filter_le _ _
  rw [Std.ExtTreeSet.length_toList] at hle
  rw [List.length_singleton, size]
  omega

/-- **`allReaders` collects exactly what reads the node, directly or through others.** -/
theorem Inverse.mem_allReaders (hi : graph.Inverse) :
    a ∈ graph.allReaders node ↔ TransGen graph.Reads a node :=
  ((collecting_start graph node).run hi (hi.collects_allReaders node)).mem_iff

theorem mem_allReaders (hc : graph.Coherent) :
    a ∈ graph.allReaders node ↔ TransGen graph.Reads a node :=
  Inverse.mem_allReaders hc.inverse

/-! ### The part of an order that follows a change -/

/-- Of an order only a part is kept, and in it every node still comes behind all that it reads. -/
theorem IsOrder.mem_before {order before after : List String} (h : graph.IsOrder order)
    (ha : graph.Acyclic) {keep : String → Bool} {b : String}
    (hsplit : order.filter keep = before ++ a :: after) (hb : b ∈ order.filter keep)
    (hab : graph.Reads a b) : b ∈ before := by
  have hsorted := h.sorted.filter keep
  rw [hsplit] at hsorted hb
  rcases List.mem_append.mp hb with hb | hb
  · exact hb
  · rcases List.mem_cons.mp hb with rfl | hb
    · exact absurd (.single hab) (ha b)
    · have hrest := (List.pairwise_append.mp hsorted).2.1
      exact absurd hab (List.rel_of_pairwise_cons hrest hb)

/-- **What reads a node is collected exactly, and the order of calculation restricted to it is an
order of it.**  The two maps of the graph have to be inverse to each other; the node may be absent,
and the graph may have cycles.  Collecting comes to an end whatever node of the list is taken next,
and always with the same nodes, those from which a way leads to the node.  The node is among them
exactly when it lies on a cycle. -/
theorem allReaders_exact (graph : DependencyGraph) (hinverse : graph.Inverse) (node : String) :
    (WellFounded fun next now => graph.Collects now next) ∧
    (∀ seen, ReflTransGen graph.Collects ([node], ∅) ([], seen) ↔
      seen = graph.allReaders node) ∧
    (∀ a, a ∈ graph.allReaders node ↔ TransGen graph.Reads a node) ∧
    (node ∈ graph.allReaders node ↔ ∃ path, graph.reads.IsLoop path ∧ node ∈ path) ∧
    (graph.Acyclic → ∃ order, graph.order? = some order ∧
      (order.filter (graph.allReaders node).contains).Nodup ∧
      (∀ a, a ∈ order.filter (graph.allReaders node).contains ↔ a ∈ graph.allReaders node) ∧
      ∀ before a after, order.filter (graph.allReaders node).contains = before ++ a :: after →
        ∀ b ∈ graph.allReaders node, graph.Reads a b → b ∈ before) := by
  refine ⟨hinverse.wellFounded_collects, fun seen => ⟨fun hrun => ?_, ?_⟩,
    fun a => hinverse.mem_allReaders, ?_, fun ha => ?_⟩
  · have hend := (collecting_start graph node).run hinverse hrun
    exact Std.ExtTreeSet.ext_mem fun a => hend.mem_iff.trans hinverse.mem_allReaders.symm
  · rintro rfl
    exact hinverse.collects_allReaders node
  · rw [hinverse.mem_allReaders, Adjacency.exists_isLoop_iff]
  · obtain ⟨order, horder, h⟩ := hinverse.exists_order ha
    have hmem : ∀ a, a ∈ order.filter (graph.allReaders node).contains ↔
        a ∈ graph.allReaders node := by
      intro a
      rw [List.mem_filter, h.mem_iff, Std.ExtTreeSet.contains_iff_mem, and_iff_right_iff_imp,
        hinverse.mem_allReaders]
      intro hway
      obtain ⟨b, hb, -⟩ := TransGen.head'_iff.mp hway
      exact hb.mem_nodes
    exact ⟨order, horder, h.nodup.filter _, hmem, fun before a after hsplit b hb =>
      h.mem_before ha hsplit ((hmem b).mpr hb)⟩

/-- Two ways from one node to another, and two nodes more below and beside them. -/
def twoWays : DependencyGraph :=
  ofEdges [("D1", "C1"), ("D1", "B1"), ("C1", "A1"), ("B1", "A1"), ("A1", "E1"), ("F1", "E1")]

/-- The same with an arrow that leads back. -/
def twoWaysBack : DependencyGraph := twoWays.link "A1" "D1"

/-- What follows a change comes in its order, and a node on a cycle follows its own change. -/
theorem twoWays_followed :
    (∃ order, twoWays.order? = some order ∧
      order.filter (twoWays.allReaders "A1").contains = ["B1", "C1", "D1"] ∧
      ∀ b ∈ twoWays.allReaders "A1", twoWays.Reads "D1" b → b ∈ ["B1", "C1"]) ∧
    ∃ path, twoWaysBack.reads.IsLoop path ∧ "A1" ∈ path := by
  have hinverse : twoWays.Inverse := (coherent_ofEdges _).inverse
  have hacyclic : twoWays.Acyclic := Adjacency.cycle?_eq_none_iff.mp (by decide +kernel)
  have hback : twoWaysBack.Inverse := ((coherent_ofEdges _).link "A1" "D1").inverse
  obtain ⟨-, -, -, -, hfollowed⟩ := allReaders_exact twoWays hinverse "A1"
  obtain ⟨-, -, -, hcycle, -⟩ := allReaders_exact twoWaysBack hback "A1"
  obtain ⟨order, horder, -, -, hbehind⟩ := hfollowed hacyclic
  have hfound : twoWays.order? = some ["E1", "A1", "F1", "B1", "C1", "D1"] := by decide +kernel
  obtain rfl := Option.some.inj (horder.symm.trans hfound)
  have hfilter : ["E1", "A1", "F1", "B1", "C1", "D1"].filter (twoWays.allReaders "A1").contains =
      ["B1", "C1", "D1"] := by decide +kernel
  exact ⟨⟨_, hfound, hfilter, hbehind ["B1", "C1"] "D1" [] hfilter⟩,
    hcycle.mp (by decide +kernel)⟩

end DependencyGraph
end Gridcalc
