import Gridcalc.Dependency.Adjacency

/-! # Searching for a cycle

A depth-first search that starts at every key in turn, goes to targets in their order
and marks each node it enters. An arrow to a node that is still on the way from the
start closes a cycle; an arrow to any other marked node leads nowhere new. The search
stops at the first cycle, so the path it reports is determined by the map. -/

namespace Gridcalc.Adjacency

/-- The cycle that an arrow to `node` closes, when `trail` holds the nodes on the way with
the latest first: from `node` along the trail and back to `node`. -/
def loopAt (trail : List String) (node : String) : List String :=
  node :: ((trail.takeWhile (· != node)).reverse ++ [node])

/-- Searches from each of the given nodes that is not marked yet, and returns the marks or
the first cycle. A trail never repeats a node and all its nodes but the last have an
entry, which bounds how deep the search goes. -/
def search (adjacency : Adjacency) :
    Nat → List String → NodeSet → List String → Except (List String) NodeSet
  | 0, _, marked, _ => .ok marked
  | depth + 1, trail, marked, starts =>
    starts.foldlM (fun marked node =>
      if node ∈ marked then
        if node ∈ trail then .error (loopAt trail node) else .ok marked
      else
        search adjacency depth (node :: trail) (marked.insert node)
          (adjacency.targets node).toList) marked

/-- **The first cycle of a map,** with its first node repeated at the end. -/
def cycle? (adjacency : Adjacency) : Option (List String) :=
  match adjacency.search (adjacency.size + 1) [] ∅ adjacency.keys with
  | .error cycle => some cycle
  | .ok _ => none

end Gridcalc.Adjacency
