import Gridcalc.Proofs.Dependency.Change
import Gridcalc.Proofs.Dependency.Order

/-! # Draining a graph with or without cycles

`order?` counts for each node the reads it still waits for, and takes the counts from one map and
the readers it tells from the other.  `Drains` gives the rules of this counting without a bound
on the rounds, and with no rule for taking one from a count of zero.  So a derivation is a run
that comes to an end by itself and in which every count that is taken from is positive.  On a
coherent graph there is one such run, and it is the one that the rounds of `drain` make
(`drains_drained`, `Drains.unique`).

Nothing here supposes that the graph has no cycle.  A node gets its turn when all it reads have
had theirs (`drained_behind`), so the nodes that get a turn lie on no cycle, and all nodes get one
exactly when there is none: counting and searching agree (`exists_order_iff`).
-/
namespace Gridcalc.DependencyGraph
open Relation
variable {graph : DependencyGraph}

/-! ### The rules of counting -/

/-- **Telling some readers, one after another, that a node they wait for is done.**  A reader
that waits for nothing any more cannot be told. -/
inductive Releases : Waiting → List String → List String → Waiting → Prop
  /-- No reader is left. -/
  | done {waiting} : Releases waiting [] [] waiting
  /-- A reader without a count is passed over. -/
  | uncounted {waiting node rest ready left} : waiting[node]? = none →
      Releases waiting rest ready left → Releases waiting (node :: rest) ready left
  /-- A reader that waited for this node only is released. -/
  | last {waiting node rest ready left} : waiting[node]? = some 1 →
      Releases (waiting.insert node 0) rest ready left →
      Releases waiting (node :: rest) (node :: ready) left
  /-- A reader that waits for more nodes waits for one less. -/
  | more {waiting node rest ready left count} : waiting[node]? = some (count + 2) →
      Releases (waiting.insert node (count + 1)) rest ready left →
      Releases waiting (node :: rest) ready left

/-- **Taking the nodes of a queue,** and appending to it what each of them releases, until the
queue is empty. -/
inductive Drains (graph : DependencyGraph) : List String → Waiting → List String → Prop
  | done {waiting} : Drains graph [] waiting []
  | turn {node queue waiting ready left order} :
      Releases waiting (graph.readers.targets node).toList ready left →
      Drains graph (queue ++ ready) left order →
      Drains graph (node :: queue) waiting (node :: order)

theorem Releases.unique {waiting left : Waiting} {readers ready : List String}
    (h : Releases waiting readers ready left) :
    ∀ {ready' left'}, Releases waiting readers ready' left' → ready' = ready ∧ left' = left := by
  induction h with
  | done =>
    intro ready' left' h'
    cases h'
    exact ⟨rfl, rfl⟩
  | uncounted hwait _ ih =>
    intro ready' left' h'
    cases h' with
    | uncounted _ hrest => exact ih hrest
    | last hwait' _ => simp [hwait] at hwait'
    | more hwait' _ => simp [hwait] at hwait'
  | last hwait _ ih =>
    intro ready' left' h'
    cases h' with
    | uncounted hwait' _ => simp [hwait] at hwait'
    | last _ hrest =>
      obtain ⟨rfl, rfl⟩ := ih hrest
      exact ⟨rfl, rfl⟩
    | more hwait' _ => simp [hwait] at hwait'
  | more hwait _ ih =>
    intro ready' left' h'
    cases h' with
    | uncounted hwait' _ => simp [hwait] at hwait'
    | last hwait' _ => simp [hwait] at hwait'
    | more hwait' hrest =>
      obtain rfl := Nat.add_right_cancel (Option.some.inj (hwait.symm.trans hwait'))
      exact ih hrest

/-- **The counting has one outcome.** -/
theorem Drains.unique {queue order : List String} {waiting : Waiting}
    (h : graph.Drains queue waiting order) :
    ∀ {order'}, graph.Drains queue waiting order' → order' = order := by
  induction h with
  | done =>
    intro order' h'
    cases h'
    rfl
  | turn hrelease _ ih =>
    intro order' h'
    cases h' with
    | turn hrelease' hrest =>
      obtain ⟨rfl, rfl⟩ := hrelease.unique hrelease'
      rw [ih hrest]

/-! ### Every count that is taken from is positive -/

/-- Readers that all wait for something can be told in turn. -/
theorem releases_release : ∀ (readers : List String) (waiting : Waiting), readers.Nodup →
    (∀ a ∈ readers, waiting[a]? ≠ some 0) →
    Releases waiting readers (release waiting readers).1 (release waiting readers).2
  | [], _, _, _ => .done
  | node :: rest, waiting, hnodup, hpositive => by
    obtain ⟨hnode, hrest⟩ := List.nodup_cons.mp hnodup
    have hlater : ∀ a ∈ rest, waiting[a]? ≠ some 0 :=
      fun a ha => hpositive a (List.mem_cons_of_mem _ ha)
    -- Telling one reader leaves the counts of the others alone.
    have hkept : ∀ count, ∀ a ∈ rest, (waiting.insert node count)[a]? ≠ some 0 := by
      intro count a ha
      rw [Std.ExtTreeMap.getElem?_insert, if_neg]
      · exact hlater a ha
      · rw [Std.compare_eq_iff_eq]
        rintro rfl
        exact hnode ha
    cases hwait : waiting[node]? with
    | none =>
      rw [release, hwait]
      exact .uncounted hwait (releases_release rest waiting hrest hlater)
    | some count =>
      obtain _ | _ | count := count
      · exact absurd hwait (hpositive node List.mem_cons_self)
      · rw [release, hwait]
        exact .last hwait (releases_release rest _ hrest (hkept 0))
      · rw [release, hwait]
        exact .more hwait (releases_release rest _ hrest (hkept (count + 1)))

section Rounds
variable {done queue : List String} {node : String} {waiting : Waiting}

/-- A reader of the node at the front of the queue waits for it at least. -/
theorem Front.positive (hc : graph.Coherent) (h : Front graph done (node :: queue) waiting)
    {a : String} (ha : a ∈ (graph.readers.targets node).toList) : waiting[a]? ≠ some 0 := by
  have hreads := (Inverse.mem_toList_readers hc.inverse).mp ha
  rw [h.count a (hc.mem_nodes.mpr ⟨node, Or.inl hreads⟩)]
  intro hzero
  exact h.not_mem_done (openReads_eq_zero.mp (Option.some.inj hzero) node hreads)

/-- With a round for every node that is not done, `drain` follows the rules to their end. -/
theorem drains_drain (hc : graph.Coherent) : ∀ (rounds : Nat) (done queue : List String)
    (waiting : Waiting), Front graph done queue waiting → graph.size ≤ rounds + done.length →
    graph.Drains queue waiting (graph.drain rounds queue waiting)
  | 0, done, queue, waiting, h, hrounds => by
    have hle := h.length_le
    rw [List.length_append] at hle
    have hqueue : queue = [] := List.length_eq_zero_iff.mp (by omega)
    subst hqueue
    exact .done
  | rounds + 1, done, [], waiting, _, _ => .done
  | rounds + 1, done, node :: queue, waiting, h, hrounds => by
    have hlength : graph.size ≤ rounds + (done ++ [node]).length := by
      rw [List.length_append, List.length_singleton]
      omega
    exact .turn (releases_release _ waiting (NodeSet.nodup_toList _) fun _ => h.positive hc)
      (drains_drain hc rounds _ _ _ (h.next hc.inverse) hlength)

theorem drains_drained (hc : graph.Coherent) :
    graph.Drains graph.sources graph.waiting graph.drained :=
  drains_drain hc graph.size [] graph.sources graph.waiting (front_sources graph) (Nat.le_refl _)

/-! ### Who gets a turn -/

/-- Whatever a node reads had its turn before. -/
theorem drain_behind (hc : graph.Coherent) : ∀ (rounds : Nat) (done queue : List String)
    (waiting : Waiting), Front graph done queue waiting →
    ∀ (before : List String) (a : String) (after : List String),
      graph.drain rounds queue waiting = before ++ a :: after →
      ∀ b, graph.Reads a b → b ∈ done ++ before
  | 0, _, _, _, _, before, a, after, hsplit, b, _ => by simp [drain] at hsplit
  | _ + 1, _, [], _, _, before, a, after, hsplit, b, _ => by simp [drain] at hsplit
  | rounds + 1, done, node :: queue, waiting, h, before, a, after, hsplit, b, hab => by
    rw [drain] at hsplit
    cases before with
    | nil =>
      obtain rfl := (List.cons.inj hsplit).1
      have hready := ((h.mem_iff node).mp (List.mem_append_right _ List.mem_cons_self)).2
      rw [List.append_nil]
      exact hready b hab
    | cons first before =>
      obtain ⟨rfl, hrest⟩ := List.cons.inj hsplit
      have hbefore := drain_behind hc rounds _ _ _ (h.next hc.inverse) before a after hrest b hab
      simpa using hbefore

end Rounds

/-- **A node gets its turn behind everything that it reads.** -/
theorem drained_behind (hc : graph.Coherent) {before after : List String} {a b : String}
    (hsplit : graph.drained = before ++ a :: after) (hab : graph.Reads a b) : b ∈ before :=
  drain_behind hc graph.size [] graph.sources graph.waiting (front_sources graph)
    before a after hsplit b hab

/-- Nodes listed behind everything that they read lie on no cycle. -/
theorem acyclic_of_behind {order : List String} (hall : ∀ a b, graph.Reads a b → a ∈ order)
    (hbehind : ∀ before a after, order = before ++ a :: after →
      ∀ b, graph.Reads a b → b ∈ before) : graph.Acyclic := by
  have hlt : ∀ a b, graph.Reads a b → order.idxOf b < order.idxOf a := by
    intro a b hab
    obtain ⟨before, after, hsplit, hfirst⟩ := List.eq_append_cons_of_mem (hall a b hab)
    have hb := hbehind before a after hsplit b hab
    have ha : order.idxOf a = before.length := by
      rw [hsplit, List.idxOf_append_of_notMem hfirst]
      simp
    rw [ha, hsplit, List.idxOf_append_of_mem hb]
    exact List.idxOf_lt_length_of_mem hb
  have hway : ∀ a b, TransGen graph.Reads a b → order.idxOf b < order.idxOf a := by
    intro a b h
    induction h with
    | single hab => exact hlt _ _ hab
    | tail _ hbc ih => exact Nat.lt_trans (hlt _ _ hbc) ih
  exact fun a hcycle => Nat.lt_irrefl _ (hway a a hcycle)

/-- **Counting finds an order exactly when the search finds no cycle.** -/
theorem exists_order_iff (hc : graph.Coherent) :
    (∃ order, graph.order? = some order) ↔ graph.cycle? = none := by
  rw [cycle?, Adjacency.cycle?_eq_none_iff]
  constructor
  · rintro ⟨order, horder⟩
    unfold order? at horder
    split at horder
    · cases horder
    · rename_i hlength
      obtain ⟨left, hfront⟩ := front_drained hc.inverse
      -- The nodes that got a turn are different nodes of the graph, and as many as it has.
      have hnodup : graph.drained.Nodup := by simpa using hfront.nodup
      have hsub : graph.drained ⊆ graph.nodes.toList := fun a ha =>
        Std.ExtTreeSet.mem_toList.mpr ((hfront.mem_iff a).mp (by simpa using ha)).1
      have hperm := (List.subperm_of_subset hnodup hsub).perm_of_length_le (by
        rw [Std.ExtTreeSet.length_toList]
        exact Nat.not_lt.mp hlength)
      refine acyclic_of_behind (fun a b hab => ?_) fun before a after hsplit b hab =>
        drained_behind hc hsplit hab
      exact hperm.mem_iff.mpr (Std.ExtTreeSet.mem_toList.mpr (hc.mem_nodes.mpr ⟨b, Or.inl hab⟩))
  · intro ha
    obtain ⟨order, horder, -⟩ := exists_order hc ha
    exact ⟨order, horder⟩

theorem drained_of_order? {order : List String} (h : graph.order? = some order) :
    graph.drained = order := by
  unfold order? at h
  split at h
  · cases h
  · exact Option.some.inj h

/-- **Counting and searching agree on every graph.**  After any calls on a graph of any arrows, an
order is found exactly when no cycle is; an order lists each node once and behind everything that
it reads; and the counting comes to an end by itself without taking from a count of zero. -/
theorem order?_exact (edges : List (String × String)) (changes : List Change) :
    ∀ graph, graph = changed (ofEdges edges) changes →
      ((∃ order, graph.order? = some order) ↔ graph.cycle? = none) ∧
      (∀ order, graph.order? = some order → order.Nodup ∧
        (∀ a, a ∈ order ↔ a ∈ graph.nodes) ∧
        ∀ before a after, order = before ++ a :: after → ∀ b, graph.Reads a b → b ∈ before) ∧
      ∀ order, graph.Drains graph.sources graph.waiting order ↔ order = graph.drained := by
  rintro graph rfl
  have hc := (coherent_ofEdges edges).changed changes
  refine ⟨exists_order_iff hc, fun order horder => ?_, fun order => ⟨?_, ?_⟩⟩
  · have ha := Adjacency.cycle?_eq_none_iff.mp ((exists_order_iff hc).mp ⟨order, horder⟩)
    obtain ⟨found, hfound, h⟩ := exists_order hc ha
    obtain rfl := Option.some.inj (hfound.symm.trans horder)
    refine ⟨h.nodup, h.mem_iff, fun before a after hsplit b hab => ?_⟩
    exact drained_behind hc ((drained_of_order? horder).trans hsplit) hab
  · exact (drains_drained hc).unique
  · rintro rfl
    exact drains_drained hc

/-- Three nodes of which two read each other until one stops, and two nodes apart. -/
def loosened : DependencyGraph :=
  changed (ofEdges [("A1", "B1"), ("B1", "A1"), ("C1", "A1"), ("E1", "D1")]) [.removeRead "B1" "A1"]

theorem loosened_order : loosened.order? = some ["B1", "D1", "A1", "E1", "C1"] ∧
    loosened.cycle? = none ∧ ∀ b, loosened.Reads "A1" b → b ∈ ["B1", "D1"] := by
  obtain ⟨hagree, horder, -⟩ := order?_exact
    [("A1", "B1"), ("B1", "A1"), ("C1", "A1"), ("E1", "D1")] [.removeRead "B1" "A1"] loosened rfl
  have hfound : loosened.order? = some ["B1", "D1", "A1", "E1", "C1"] := by decide +kernel
  obtain ⟨-, -, hbehind⟩ := horder _ hfound
  exact ⟨hfound, hagree.mp ⟨_, hfound⟩, hbehind ["B1", "D1"] "A1" ["E1", "C1"] rfl⟩

end Gridcalc.DependencyGraph
