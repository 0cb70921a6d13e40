import Gridcalc.Dependency.Cycle

/-! # The dependency graph

Which cells a cell reads, and which cells read it. The two maps hold the same arrows,
seen from either end, and a node is in the graph only while an arrow touches it.

`setReads` and `addRead` refuse to close a cycle. They put the new arrows in place,
search the whole graph, and when there is a cycle anywhere take the arrows out again. -/

namespace Gridcalc

/-- Arrows from each cell to the cells it reads, seen from both ends. -/
structure DependencyGraph where
  /-- The cells that a cell reads. -/
  reads : Adjacency
  /-- The cells that read a cell. -/
  readers : Adjacency

/-- Why arrows were refused. -/
inductive CycleError where
  /-- A cell would read itself. -/
  | selfReference (node : String)
  /-- The graph would have this cycle, whose first node is repeated at the end. -/
  | cycle (path : List String)
deriving DecidableEq

/-- The text shown to the user. -/
def CycleError.message : CycleError → String
  | selfReference node => "Cell " ++ node ++ " cannot depend on itself"
  | cycle path => "Circular dependency detected: " ++ " -> ".intercalate path

namespace DependencyGraph

/-- The graph without arrows. -/
def empty : DependencyGraph := ⟨∅, ∅⟩

instance : EmptyCollection DependencyGraph := ⟨empty⟩
instance : Inhabited DependencyGraph := ⟨empty⟩

/-! ### Views -/

/-- The nodes that arrows touch. -/
def nodes (graph : DependencyGraph) : NodeSet :=
  .ofList (graph.reads.keys ++ graph.readers.keys)

/-- Whether an arrow touches the node. -/
def contains (graph : DependencyGraph) (node : String) : Bool :=
  graph.reads.contains node || graph.readers.contains node

/-- The number of nodes. -/
def size (graph : DependencyGraph) : Nat := graph.nodes.size

/-- Whether there is no arrow. -/
def isEmpty (graph : DependencyGraph) : Bool := graph.reads.isEmpty && graph.readers.isEmpty

/-- The first cycle of the graph. -/
def cycle? (graph : DependencyGraph) : Option (List String) := graph.reads.cycle?

/-! ### Changes without a search -/

/-- The graph with one arrow added. -/
def link (graph : DependencyGraph) (source target : String) : DependencyGraph :=
  ⟨graph.reads.link source target, graph.readers.link target source⟩

/-- The graph of a list of arrows, which may close cycles. -/
def ofEdges (edges : List (String × String)) : DependencyGraph :=
  edges.foldl (fun graph edge => graph.link edge.1 edge.2) ∅

/-- The graph with one arrow taken away, if it is there. -/
def removeRead (graph : DependencyGraph) (source target : String) : DependencyGraph :=
  ⟨graph.reads.unlink source target, graph.readers.unlink target source⟩

/-- The graph in which a node reads exactly the given nodes. At the other end the old
arrows are taken away one by one and the new ones added. -/
def rewire (graph : DependencyGraph) (node : String) (targets : NodeSet) : DependencyGraph :=
  let cut := (graph.reads.targets node).toList.foldl
    (fun readers target => readers.unlink target node) graph.readers
  ⟨graph.reads.assign node targets,
    targets.toList.foldl (fun readers target => readers.link target node) cut⟩

/-- The graph in which a node reads nothing. -/
def clearReads (graph : DependencyGraph) (node : String) : DependencyGraph :=
  graph.rewire node ∅

/-! ### Changes that close no cycle -/

/-- Replaces what a node reads, or refuses and leaves the graph as it was. -/
def setReads (graph : DependencyGraph) (node : String) (targets : NodeSet) :
    Except CycleError Unit × DependencyGraph :=
  if node ∈ targets then (.error (.selfReference node), graph)
  else
    let changed := graph.rewire node targets
    match changed.cycle? with
    | none => (.ok (), changed)
    | some path => (.error (.cycle path), changed.rewire node (graph.reads.targets node))

/-- Adds one arrow, or refuses and leaves the graph as it was. For an arrow that is there
already nothing is searched. -/
def addRead (graph : DependencyGraph) (source target : String) :
    Except CycleError Unit × DependencyGraph :=
  if source = target then (.error (.selfReference source), graph)
  else if target ∈ graph.reads.targets source then (.ok (), graph)
  else
    let changed := graph.link source target
    match changed.cycle? with
    | none => (.ok (), changed)
    | some path => (.error (.cycle path), changed.removeRead source target)

end DependencyGraph
end Gridcalc
