import Std.Data.ExtTreeMap
import Std.Data.ExtTreeSet

/-! # Adjacency maps

An adjacency map gives a set of targets to some nodes; nodes are texts, in the program
canonical addresses. Keys and targets are kept in the order of their characters, so
every traversal has one order. Two maps with the same entries are equal. -/

namespace Gridcalc

/-- A set of nodes. -/
abbrev NodeSet := Std.ExtTreeSet String

/-- The targets of each node that has an entry. -/
abbrev Adjacency := Std.ExtTreeMap String NodeSet

namespace Adjacency

/-- The targets of a node; a node without an entry has none. -/
def targets (adjacency : Adjacency) (node : String) : NodeSet := adjacency.getD node ∅

/-- The map with an arrow added. -/
def link (adjacency : Adjacency) (source target : String) : Adjacency :=
  adjacency.insert source ((adjacency.targets source).insert target)

/-- The map with an arrow taken away, and with it the entry that it leaves empty. -/
def unlink (adjacency : Adjacency) (source target : String) : Adjacency :=
  let rest := (adjacency.targets source).erase target
  if rest.isEmpty then adjacency.erase source else adjacency.insert source rest

/-- The map with the whole target set of a node replaced. An empty set leaves no entry. -/
def assign (adjacency : Adjacency) (source : String) (targets : NodeSet) : Adjacency :=
  if targets.isEmpty then adjacency.erase source else adjacency.insert source targets

end Adjacency
end Gridcalc
