import Gridcalc.Dependency.Graph

/-! # Order of calculation

A cell can be calculated once every cell it reads has been. `order?` counts for each
node the cells it still waits for, takes the nodes that wait for nothing in the order of
their names, and goes on with the nodes that each one releases. `allReaders` collects
everything that has to follow a change. -/

namespace Gridcalc.DependencyGraph

/-- How many nodes each node still waits for. -/
abbrev Waiting := Std.ExtTreeMap String Nat

/-- Tells the given nodes, one after another, that a node they wait for is done. Returns
those that now wait for nothing, in order, and the counts. -/
def release (waiting : Waiting) : List String → List String × Waiting
  | [] => ([], waiting)
  | node :: rest =>
    match waiting[node]? with
    | none => release waiting rest
    | some count =>
      let (ready, left) := release (waiting.insert node (count - 1)) rest
      (if count - 1 = 0 then node :: ready else ready, left)

/-- Takes the nodes of a queue and appends to the queue what each of them releases. A node
enters the queue once, so the number of nodes bounds the rounds. -/
def drain (graph : DependencyGraph) : Nat → List String → Waiting → List String
  | 0, _, _ => []
  | _, [], _ => []
  | rounds + 1, node :: queue, waiting =>
    let (ready, left) := release waiting (graph.readers.targets node).toList
    node :: drain graph rounds (queue ++ ready) left

/-- How many nodes each node of the graph reads. -/
def waiting (graph : DependencyGraph) : Waiting :=
  .ofList (graph.nodes.toList.map fun node => (node, (graph.reads.targets node).size))

/-- The nodes of the graph that read nothing, in the order of their names. -/
def sources (graph : DependencyGraph) : List String :=
  graph.nodes.toList.filter fun node => (graph.reads.targets node).isEmpty

/-- The nodes that get their turn when calculation starts from those that read nothing. -/
def drained (graph : DependencyGraph) : List String :=
  graph.drain graph.size graph.sources graph.waiting

/-- **All nodes, each behind the nodes it reads,** or nothing when a cycle keeps some of
them waiting. -/
def order? (graph : DependencyGraph) : Option (List String) :=
  if graph.drained.length < graph.size then none else some graph.drained

/-- Adds to the nodes seen what reads the nodes of a list, directly or through others. Each
round takes one node off the list, and a node enters it once. -/
def spread (graph : DependencyGraph) : Nat → List String → NodeSet → NodeSet
  | 0, _, seen => seen
  | _, [], seen => seen
  | rounds + 1, node :: rest, seen =>
    let fresh := (graph.readers.targets node).toList.filter fun reader => !seen.contains reader
    spread graph rounds (fresh ++ rest) (seen.insertMany fresh)

/-- Every node that reads the given node, directly or through other nodes. -/
def allReaders (graph : DependencyGraph) (node : String) : NodeSet :=
  graph.spread (graph.size + 1) [node] ∅

end Gridcalc.DependencyGraph
