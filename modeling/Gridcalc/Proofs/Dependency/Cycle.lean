import Gridcalc.Dependency.Cycle
import Gridcalc.Proofs.Dependency.Adjacency
import Mathlib.Data.List.Chain
import Mathlib.Data.List.Nodup
import Mathlib.Data.List.Perm.Subperm

/-! # The search finds a cycle exactly when there is one

The search carries a trail, the nodes on the way from the start, and marks every node it
enters.  `Searches` gives its rules without the bound on the depth, so a derivation is a search
that comes to an end by itself.  Every search does: the trail consists of different keys of the
map (`Roomy`), so the bound is never reached, and the outcome is that of the rules
(`searches_search`, `Searches.unique`).

What is reported and what is not are then inductions over the rules.  An arrow back into the
trail closes a cycle, since each node of the trail has an arrow to the one that was entered
after it (`Searches.isLoop`).  When no such arrow turns up, a marked node outside the trail has
been left behind for good: every way from it ends (`Searched`, kept by `Searches.searched`).

So a map is acyclic exactly when the search reports nothing (`cycle?_eq_none_iff`), and
then its arrows are well-founded (`Acyclic.wellFounded`): what holds of a node as soon as
it holds of everything the node has an arrow to, holds of all nodes.
-/
namespace Gridcalc.Adjacency
open Relation

/-! ### The rules of the search -/

/-- **The search without a bound on its depth.**  With a trail and some marks it goes through
the starts, and comes to an end with new marks or with a cycle. -/
inductive Searches (adjacency : Adjacency) :
    List String → NodeSet → List String → Except (List String) NodeSet → Prop
  /-- No start is left. -/
  | done {trail marked} : Searches adjacency trail marked [] (.ok marked)
  /-- A start on the trail closes a cycle. -/
  | back {trail marked node rest} : node ∈ marked → node ∈ trail →
      Searches adjacency trail marked (node :: rest) (.error (loopAt trail node))
  /-- Any other marked start leads nowhere new. -/
  | pass {trail marked node rest outcome} : node ∈ marked → node ∉ trail →
      Searches adjacency trail marked rest outcome →
      Searches adjacency trail marked (node :: rest) outcome
  /-- A start that is not marked is entered, and a cycle is found from there. -/
  | stop {trail marked node rest cycle} : node ∉ marked →
      Searches adjacency (node :: trail) (marked.insert node) (adjacency.targets node).toList
        (.error cycle) →
      Searches adjacency trail marked (node :: rest) (.error cycle)
  /-- A start that is not marked is entered and left again. -/
  | leave {trail marked node rest inner outcome} : node ∉ marked →
      Searches adjacency (node :: trail) (marked.insert node) (adjacency.targets node).toList
        (.ok inner) →
      Searches adjacency trail inner rest outcome →
      Searches adjacency trail marked (node :: rest) outcome

variable {adjacency : Adjacency} {trail starts : List String} {marked : NodeSet} {node : String}
  {outcome : Except (List String) NodeSet}

/-- **A search has one outcome.** -/
theorem Searches.unique (h : adjacency.Searches trail marked starts outcome) :
    ∀ {other : Except (List String) NodeSet}, adjacency.Searches trail marked starts other →
      other = outcome := by
  induction h with
  | done =>
    intro other h'
    cases h'
    rfl
  | back hmarked htrail =>
    intro other h'
    cases h' with
    | back => rfl
    | pass _ hoff _ => exact absurd htrail hoff
    | stop hnew _ => exact absurd hmarked hnew
    | leave hnew _ _ => exact absurd hmarked hnew
  | pass hmarked hoff _ ih =>
    intro other h'
    cases h' with
    | back _ htrail => exact absurd htrail hoff
    | pass _ _ hrest => exact ih hrest
    | stop hnew _ => exact absurd hmarked hnew
    | leave hnew _ _ => exact absurd hmarked hnew
  | stop hnew _ ih =>
    intro other h'
    cases h' with
    | back hmarked _ => exact absurd hmarked hnew
    | pass hmarked _ _ => exact absurd hmarked hnew
    | stop _ hdeep => exact ih hdeep
    | leave _ hdeep _ => cases ih hdeep
  | leave hnew _ _ ihdeep ihrest =>
    intro other h'
    cases h' with
    | back hmarked _ => exact absurd hmarked hnew
    | pass hmarked _ _ => exact absurd hmarked hnew
    | stop _ hdeep => cases ihdeep hdeep
    | leave _ hdeep hrest =>
      obtain rfl := Except.ok.inj (ihdeep hdeep)
      exact ihrest hrest

theorem mem_mark {x : String} : x ∈ marked.insert node ↔ x = node ∨ x ∈ marked := by
  rw [Std.ExtTreeSet.mem_insert, Std.compare_eq_iff_eq, eq_comm]

theorem mem_mark_of_mem_cons (h : ∀ x ∈ trail, x ∈ marked) :
    ∀ x ∈ node :: trail, x ∈ marked.insert node := by
  intro x hx
  rcases List.mem_cons.mp hx with rfl | hx
  · exact mem_mark.mpr (Or.inl rfl)
  · exact mem_mark.mpr (Or.inr (h x hx))

/-- A search takes no mark away. -/
theorem Searches.mono (h : adjacency.Searches trail marked starts outcome) :
    ∀ {result : NodeSet}, outcome = .ok result → ∀ x ∈ marked, x ∈ result := by
  induction h with
  | done =>
    intro result he x hx
    obtain rfl := Except.ok.inj he
    exact hx
  | back => nofun
  | pass _ _ _ ih => exact ih
  | stop => nofun
  | leave _ _ _ ihdeep ihrest =>
    intro result he x hx
    exact ihrest he x (ihdeep rfl x (mem_mark.mpr (Or.inr hx)))

/-! ### The bound is never reached -/

theorem search_nil (depth : Nat) (trail : List String) (marked : NodeSet) :
    adjacency.search depth trail marked [] = .ok marked := by
  cases depth <;> rfl

theorem search_cons (depth : Nat) (trail : List String) (marked : NodeSet) (node : String)
    (rest : List String) :
    adjacency.search (depth + 1) trail marked (node :: rest) =
      if node ∈ marked then
        if node ∈ trail then .error (loopAt trail node)
        else adjacency.search (depth + 1) trail marked rest
      else
        match adjacency.search depth (node :: trail) (marked.insert node)
            (adjacency.targets node).toList with
        | .error cycle => .error cycle
        | .ok marked => adjacency.search (depth + 1) trail marked rest := by
  rw [search, List.foldlM_cons]
  split
  · split <;> rfl
  · cases adjacency.search depth (node :: trail) (marked.insert node)
      (adjacency.targets node).toList <;> rfl

/-- The trail consists of different keys, and the depth is enough for all the others. -/
structure Roomy (adjacency : Adjacency) (depth : Nat) (trail : List String) : Prop where
  nodup : trail.Nodup
  keys : ∀ x ∈ trail, x ∈ adjacency
  room : adjacency.size < depth + trail.length

theorem roomy_start : adjacency.Roomy (adjacency.size + 1) [] :=
  ⟨List.nodup_nil, fun _ hx => absurd hx List.not_mem_nil, Nat.lt_succ_self _⟩

/-- A trail without a repetition has at most as many nodes as there are keys. -/
theorem not_roomy_zero (trail : List String) : ¬ adjacency.Roomy 0 trail := by
  rintro ⟨hnodup, hkeys, hroom⟩
  have hsub : trail ⊆ adjacency.keys := fun x hx => Std.ExtTreeMap.mem_keys.mpr (hkeys x hx)
  have hle := (List.subperm_of_subset hnodup hsub).length_le
  rw [Std.ExtTreeMap.length_keys] at hle
  omega

theorem Roomy.cons {depth : Nat} {next : String} (h : adjacency.Roomy (depth + 1) trail)
    (hoff : node ∉ trail) (harrow : adjacency.Arrow node next) :
    adjacency.Roomy depth (node :: trail) := by
  refine ⟨List.nodup_cons.mpr ⟨hoff, h.nodup⟩, fun x hx => ?_, ?_⟩
  · rcases List.mem_cons.mp hx with rfl | hx
    · exact harrow.mem
    · exact h.keys x hx
  · have hroom := h.room
    rw [List.length_cons]
    omega

/-- **With enough depth the search comes to an end by itself.** -/
theorem searches_search : ∀ (depth : Nat) (trail : List String) (marked : NodeSet)
    (starts : List String), (starts ≠ [] → adjacency.Roomy depth trail) →
    (∀ x ∈ trail, x ∈ marked) →
    adjacency.Searches trail marked starts (adjacency.search depth trail marked starts)
  | 0, trail, marked, starts, hroom, _ => by
    cases starts with
    | nil => exact .done
    | cons node rest => exact absurd (hroom (List.cons_ne_nil _ _)) (not_roomy_zero trail)
  | depth + 1, trail, marked, starts, hroom, hkeeps => by
    -- The inner induction is on the starts, at one depth; the outer one enters a node.
    induction starts generalizing marked with
    | nil =>
      rw [search_nil]
      exact .done
    | cons node rest ih =>
      have hroom := hroom (List.cons_ne_nil _ _)
      rw [search_cons]
      split
      · rename_i hmarked
        split
        · rename_i htrail
          exact .back hmarked htrail
        · rename_i hoff
          exact .pass hmarked hoff (ih marked (fun _ => hroom) hkeeps)
      · rename_i hnew
        have hdeeper : (adjacency.targets node).toList ≠ [] →
            adjacency.Roomy depth (node :: trail) := by
          intro hne
          obtain ⟨next, hnext⟩ := List.exists_mem_of_ne_nil _ hne
          exact hroom.cons (fun htrail => hnew (hkeeps node htrail)) (mem_toList_targets.mp hnext)
        have hdeep := searches_search depth (node :: trail) (marked.insert node)
          (adjacency.targets node).toList hdeeper (mem_mark_of_mem_cons hkeeps)
        split
        · rename_i cycle hcycle
          rw [hcycle] at hdeep
          exact .stop hnew hdeep
        · rename_i inner hinner
          rw [hinner] at hdeep
          refine .leave hnew hdeep (ih inner (fun _ => hroom) fun x hx => ?_)
          exact hdeep.mono rfl x (mem_mark.mpr (Or.inr (hkeeps x hx)))

theorem searches_start (adjacency : Adjacency) : adjacency.Searches [] ∅ adjacency.keys
    (adjacency.search (adjacency.size + 1) [] ∅ adjacency.keys) :=
  searches_search _ _ _ _ (fun _ => roomy_start) fun _ hx => absurd hx List.not_mem_nil

/-! ### What the search reports is a cycle -/

/-- **A cycle written out**: different nodes, each with an arrow to the next one and the last
with an arrow to the first, which is repeated at the end. -/
def IsLoop (adjacency : Adjacency) (path : List String) : Prop :=
  ∃ first rest, path = first :: (rest ++ [first]) ∧ (first :: rest).Nodup ∧
    path.IsChain adjacency.Arrow

/-- Nodes written out with an arrow from each to the next are a way from the first to the last. -/
theorem transGen_of_isChain : ∀ (middle : List String) {a b : String},
    (a :: (middle ++ [b])).IsChain adjacency.Arrow → TransGen adjacency.Arrow a b
  | [], a, b, h => .single (List.isChain_cons_cons.mp h).1
  | c :: rest, a, b, h => by
    obtain ⟨hac, hrest⟩ := List.isChain_cons_cons.mp h
    exact .head hac (transGen_of_isChain rest hrest)

theorem IsLoop.exists_cycle {path : List String} (h : adjacency.IsLoop path) :
    ∃ node, TransGen adjacency.Arrow node node := by
  obtain ⟨first, rest, rfl, -, hchain⟩ := h
  exact ⟨first, transGen_of_isChain rest hchain⟩

/-- A way need not come to a node twice. -/
theorem exists_nodup_isChain {a b : String} (h : ReflTransGen adjacency.Arrow a b) :
    ∃ way : List String, way.head? = some a ∧ way.getLast? = some b ∧ way.Nodup ∧
      way.IsChain adjacency.Arrow := by
  induction h using ReflTransGen.head_induction_on with
  | refl => exact ⟨[b], rfl, rfl, List.nodup_singleton b, List.isChain_singleton b⟩
  | @head a c hac _ ih =>
    obtain ⟨way, hhead, hlast, hnodup, hchain⟩ := ih
    by_cases hmem : a ∈ way
    · -- The way comes through its own start, and what stands in front of that is left out.
      obtain ⟨before, behind, rfl, -⟩ := List.eq_append_cons_of_mem hmem
      rw [List.getLast?_append_cons] at hlast
      exact ⟨a :: behind, rfl, hlast, hnodup.of_append_right, hchain.right_of_append⟩
    · have hne : way ≠ [] := by
        rintro rfl
        cases hhead
      refine ⟨a :: way, rfl, ?_, List.nodup_cons.mpr ⟨hmem, hnodup⟩, ?_⟩
      · rw [List.getLast?_cons_of_ne_nil hne, hlast]
      · refine List.isChain_cons.mpr ⟨fun next hnext => ?_, hchain⟩
        obtain rfl := Option.some.inj (hhead.symm.trans hnext)
        exact hac

/-- **A node lies on a cycle exactly when a way leads from it back to it.** -/
theorem exists_isLoop_iff :
    (∃ path, adjacency.IsLoop path ∧ node ∈ path) ↔ TransGen adjacency.Arrow node node := by
  constructor
  · rintro ⟨_, ⟨first, rest, rfl, -, hchain⟩, hmem⟩
    obtain rfl | hmem : node = first ∨ node ∈ rest := by simpa [or_comm, or_assoc] using hmem
    · exact transGen_of_isChain rest hchain
    · obtain ⟨before, behind, rfl⟩ := List.append_of_mem hmem
      have hparts : ((first :: before) ++ node :: (behind ++ [first])).IsChain adjacency.Arrow := by
        simpa using hchain
      have hto : (first :: (before ++ [node])).IsChain adjacency.Arrow := by
        have hfront : ((first :: (before ++ [node])) ++ (behind ++ [first])).IsChain
            adjacency.Arrow := by simpa using hparts
        exact hfront.left_of_append
      exact (transGen_of_isChain behind hparts.right_of_append).trans
        (transGen_of_isChain before hto)
  · intro h
    obtain ⟨next, harrow, hback⟩ := TransGen.head'_iff.mp h
    obtain ⟨way, hhead, hlast, hnodup, hchain⟩ := exists_nodup_isChain hback
    obtain ⟨rest, rfl⟩ := List.getLast?_eq_some_iff.mp hlast
    have hcycle : (node :: (rest ++ [node])).IsChain adjacency.Arrow :=
      List.isChain_cons.mpr ⟨fun other hother => by
        obtain rfl := Option.some.inj (hhead.symm.trans hother)
        exact harrow, hchain⟩
    refine ⟨_, ⟨node, rest, rfl, ?_, hcycle⟩, List.mem_cons_self⟩
    exact (List.perm_append_singleton node rest).nodup_iff.mp hnodup

theorem loopAt_append {before behind : List String} (h : node ∉ before) :
    loopAt (before ++ node :: behind) node = node :: (before.reverse ++ [node]) := by
  have hne : ∀ x ∈ before, (x != node) = true := by
    intro x hx
    rw [bne_iff_ne]
    rintro rfl
    exact h hx
  rw [loopAt, List.takeWhile_append_of_pos hne, List.takeWhile_cons_of_neg (by simp),
    List.append_nil]

/-- A trail back to a node on it, with an arrow to that node, is a cycle. -/
theorem isLoop_loopAt (hnodup : trail.Nodup) (hnode : node ∈ trail)
    (hchain : (node :: trail).IsChain fun b a => adjacency.Arrow a b) :
    adjacency.IsLoop (loopAt trail node) := by
  obtain ⟨before, behind, rfl, hbefore⟩ := List.eq_append_cons_of_mem hnode
  rw [loopAt_append hbefore]
  refine ⟨node, before.reverse, rfl, ?_, ?_⟩
  · rw [List.nodup_cons, List.mem_reverse, List.nodup_reverse]
    exact ⟨hbefore, (List.nodup_append.mp hnodup).1⟩
  · -- The trail has the latest node first, so the cycle is a part of it read backwards.
    have hpart : ((node :: (before ++ [node])) ++ behind).IsChain
        fun b a => adjacency.Arrow a b := by
      simpa using hchain
    have hreverse := List.isChain_reverse.mpr hpart.left_of_append
    simpa using hreverse

/-- **A reported cycle is one of the map,** if the trail leads to each start. -/
theorem Searches.isLoop (h : adjacency.Searches trail marked starts outcome) :
    ∀ {cycle : List String}, outcome = .error cycle → trail.Nodup → (∀ x ∈ trail, x ∈ marked) →
      (∀ s ∈ starts, (s :: trail).IsChain fun b a => adjacency.Arrow a b) →
      adjacency.IsLoop cycle := by
  induction h with
  | done => nofun
  | back _ htrail =>
    intro cycle he hnodup _ hchain
    obtain rfl := Except.error.inj he
    exact isLoop_loopAt hnodup htrail (hchain _ List.mem_cons_self)
  | pass _ _ _ ih =>
    intro cycle he hnodup hkeeps hchain
    exact ih he hnodup hkeeps fun s hs => hchain s (List.mem_cons_of_mem _ hs)
  | stop hnew _ ih =>
    intro cycle he hnodup hkeeps hchain
    refine ih he (List.nodup_cons.mpr ⟨fun htrail => hnew (hkeeps _ htrail), hnodup⟩)
      (mem_mark_of_mem_cons hkeeps) fun s hs => ?_
    exact List.isChain_cons_cons.mpr ⟨mem_toList_targets.mp hs, hchain _ List.mem_cons_self⟩
  | leave _ hdeep _ _ ih =>
    intro cycle he hnodup hkeeps hchain
    refine ih he hnodup (fun x hx => ?_) fun s hs => hchain s (List.mem_cons_of_mem _ hs)
    exact hdeep.mono rfl x (mem_mark.mpr (Or.inr (hkeeps x hx)))

theorem isLoop_of_cycle? {path : List String} (h : adjacency.cycle? = some path) :
    adjacency.IsLoop path := by
  have hsearch := searches_start adjacency
  unfold cycle? at h
  split at h
  · rename_i cycle hcycle
    obtain rfl := Option.some.inj h
    exact hsearch.isLoop hcycle List.nodup_nil (fun _ hx => absurd hx List.not_mem_nil)
      fun s _ => List.isChain_singleton s
  · cases h

/-! ### What the search leaves behind ends -/

/-- Every way along arrows from the node ends. -/
def Ends (adjacency : Adjacency) (node : String) : Prop :=
  Acc (fun b a => adjacency.Arrow a b) node

theorem ends_of_forall_arrow {a : String} (h : ∀ b, adjacency.Arrow a b → adjacency.Ends b) :
    adjacency.Ends a := ⟨a, fun b hb => h b hb⟩

theorem ends_of_not_mem {a : String} (h : a ∉ adjacency) : adjacency.Ends a :=
  ends_of_forall_arrow fun _ hb => absurd hb.mem h

/-- The trail is marked, and from every other marked node all ways end. -/
structure Searched (adjacency : Adjacency) (trail : List String) (marked : NodeSet) : Prop where
  keeps : ∀ x ∈ trail, x ∈ marked
  ends : ∀ x ∈ marked, x ∈ trail ∨ adjacency.Ends x

theorem searched_start : adjacency.Searched [] ∅ :=
  ⟨fun _ hx => absurd hx List.not_mem_nil, fun _ hx => absurd hx Std.ExtTreeSet.not_mem_empty⟩

/-- The search enters a node. -/
theorem Searched.enter (h : adjacency.Searched trail marked) :
    adjacency.Searched (node :: trail) (marked.insert node) where
  keeps := mem_mark_of_mem_cons h.keeps
  ends x hx := by
    rcases mem_mark.mp hx with rfl | hx
    · exact Or.inl List.mem_cons_self
    · exact (h.ends x hx).imp (List.mem_cons_of_mem _) id

/-- The search leaves a node.  Everything it has an arrow to is marked and off the trail, so
all ways from it end. -/
theorem Searched.leave (h : adjacency.Searched (node :: trail) marked)
    (htargets : ∀ s ∈ (adjacency.targets node).toList, s ∈ marked ∧ s ∉ node :: trail) :
    adjacency.Searched trail marked := by
  have hnode : adjacency.Ends node := ends_of_forall_arrow fun next harrow => by
    obtain ⟨hmarked, hoff⟩ := htargets next (mem_toList_targets.mpr harrow)
    exact (h.ends next hmarked).resolve_left hoff
  refine ⟨fun x hx => h.keeps x (List.mem_cons_of_mem _ hx), fun x hx => ?_⟩
  rcases h.ends x hx with hx | hends
  · rcases List.mem_cons.mp hx with rfl | hx
    · exact Or.inr hnode
    · exact Or.inl hx
  · exact Or.inr hends

/-- **A search that reports nothing left no cycle.**  It marks every start, none of which is on
the trail. -/
theorem Searches.searched (h : adjacency.Searches trail marked starts outcome) :
    ∀ {result : NodeSet}, outcome = .ok result → adjacency.Searched trail marked →
      adjacency.Searched trail result ∧ ∀ s ∈ starts, s ∈ result ∧ s ∉ trail := by
  induction h with
  | done =>
    intro result he hmarked
    obtain rfl := Except.ok.inj he
    exact ⟨hmarked, fun s hs => absurd hs List.not_mem_nil⟩
  | back => nofun
  | pass hnode hoff hrest ih =>
    intro result he hmarked
    obtain ⟨hresult, hstarts⟩ := ih he hmarked
    refine ⟨hresult, List.forall_mem_cons.mpr ⟨⟨?_, hoff⟩, hstarts⟩⟩
    exact hrest.mono he _ hnode
  | stop => nofun
  | leave hnew hdeep hrest ihdeep ihrest =>
    intro result he hmarked
    obtain ⟨hinner, htargets⟩ := ihdeep rfl hmarked.enter
    obtain ⟨hresult, hstarts⟩ := ihrest he (hinner.leave htargets)
    have hmark := hdeep.mono rfl _ (mem_mark.mpr (Or.inl rfl))
    refine ⟨hresult, List.forall_mem_cons.mpr ⟨⟨hrest.mono he _ hmark, ?_⟩, hstarts⟩⟩
    exact fun htrail => hnew (hmarked.keeps _ htrail)

/-! ### Acyclic maps -/

theorem wellFounded_of_cycle?_eq_none (h : adjacency.cycle? = none) :
    WellFounded fun b a => adjacency.Arrow a b := by
  have hsearch := searches_start adjacency
  unfold cycle? at h
  split at h
  · cases h
  · rename_i result hresult
    obtain ⟨hsearched, hkeys⟩ := hsearch.searched hresult searched_start
    refine ⟨fun node => ?_⟩
    by_cases hnode : node ∈ adjacency
    · obtain ⟨hmem, hoff⟩ := hkeys node (Std.ExtTreeMap.mem_keys.mpr hnode)
      exact (hsearched.ends node hmem).resolve_left hoff
    · exact ends_of_not_mem hnode

theorem acyclic_of_wellFounded (h : WellFounded fun b a => adjacency.Arrow a b) :
    adjacency.Acyclic := by
  intro node
  induction node using h.induction with
  | _ node ih =>
    intro hcycle
    obtain ⟨next, harrow, hback⟩ := TransGen.head'_iff.mp hcycle
    exact ih next harrow (TransGen.tail' hback harrow)

/-- **The search finds a cycle exactly when there is one.** -/
theorem cycle?_eq_none_iff : adjacency.cycle? = none ↔ adjacency.Acyclic := by
  constructor
  · exact fun h => acyclic_of_wellFounded (wellFounded_of_cycle?_eq_none h)
  · intro h
    cases hcycle : adjacency.cycle? with
    | none => rfl
    | some path =>
      obtain ⟨node, hnode⟩ := (isLoop_of_cycle? hcycle).exists_cycle
      exact absurd hnode (h node)

theorem Acyclic.wellFounded (h : adjacency.Acyclic) :
    WellFounded fun b a => adjacency.Arrow a b :=
  wellFounded_of_cycle?_eq_none (cycle?_eq_none_iff.mpr h)

/-! ### The answer -/

/-- **The search comes to an end on every map, and is right.**  Its outcome is that of the rules
without a bound on the depth.  It reports nothing exactly when the map has no cycle, and what it
reports is a cycle without a repetition. -/
theorem cycle?_exact (adjacency : Adjacency) :
    (∀ outcome, adjacency.Searches [] ∅ adjacency.keys outcome ↔
      outcome = adjacency.search (adjacency.size + 1) [] ∅ adjacency.keys) ∧
    (adjacency.cycle? = none ↔ ∀ node, ¬ TransGen adjacency.Arrow node node) ∧
    ∀ path, adjacency.cycle? = some path → ∃ first rest, path = first :: (rest ++ [first]) ∧
      (first :: rest).Nodup ∧ path.IsChain adjacency.Arrow := by
  refine ⟨fun outcome => ⟨(searches_start adjacency).unique, ?_⟩, cycle?_eq_none_iff,
    fun path => isLoop_of_cycle?⟩
  rintro rfl
  exact searches_start adjacency

/-- A map with an empty entry, a target without an entry, a node with an arrow to itself, and
two nodes with arrows to each other. -/
def tangled : Adjacency := .ofList ([("A1", .ofList ["B1", "Z9"]), ("B1", ∅),
  ("C1", .ofList ["A1", "D1"]), ("D1", .ofList ["B1", "C1"]), ("E1", .ofList ["E1"])] :
    List (String × NodeSet))

theorem tangled_cycle : tangled.cycle? = some ["C1", "D1", "C1"] ∧
    ∃ first rest, ["C1", "D1", "C1"] = first :: (rest ++ [first]) ∧ (first :: rest).Nodup ∧
      ["C1", "D1", "C1"].IsChain tangled.Arrow := by
  have hcycle : tangled.cycle? = some ["C1", "D1", "C1"] := by decide +kernel
  exact ⟨hcycle, (cycle?_exact tangled).2.2 _ hcycle⟩

end Gridcalc.Adjacency
