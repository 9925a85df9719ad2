import ClusterLineage.Lineage.Neighbours

/-!
# Ownership

Every resource has one owner, so the owners above a resource form a chain.  It ends at the cluster,
unless it runs into a cycle.  Cycles are searched for from the owners down, depth first.
-/

namespace ClusterLineage

/-- The cycle that closes when the end of a path owns one of its nodes: that node, and the path from
there.  Paths are given from their ends. -/
def closedCycle (path : List Nat) (j : Nat) : List Nat :=
  j :: (path.takeWhile (· != j)).reverse

/-- Goes from the end of a path to the next node.  A node of the path closes a cycle, a node that has
been explored is passed over, and from any other one the search goes on. -/
def searchNext (search : Nat → List Nat → Except (List Nat) (List Nat)) (path explored : List Nat)
    (j : Nat) : Except (List Nat) (List Nat) :=
  if path.contains j then .error (closedCycle path j)
  else if explored.contains j then .ok explored
  else search j explored

/-- Explores a node and what is below it, depth first, at the end of a path.  It fails with the first
cycle that closes, and gives all nodes that have been explored if there is none. -/
def searchBelow (owned : Nat → List Nat) :
    Nat → List Nat → Nat → List Nat → Except (List Nat) (List Nat)
  | 0, _, _, explored => .ok explored
  | depth + 1, above, i, explored =>
    (owned i).foldlM (searchNext (searchBelow owned depth (i :: above)) (i :: above))
      (i :: explored)

/-- The first cycle among so many nodes, each searched in turn; no path is longer than there are
nodes. -/
def firstCycle? (owned : Nat → List Nat) (size : Nat) : Option (List Nat) :=
  match (List.range size).foldlM (searchNext (searchBelow owned size []) []) [] with
  | .error cycle => some cycle
  | .ok _ => none

namespace Lineage

/-- The owner of a node. -/
def parent? (g : Lineage) (i : Nat) : Option Nat :=
  (g.edges.find? fun e => e.type == .owns && e.target == i).map Edge.source

/-- The first cycle of ownership, each node after its owner. -/
def ownershipCycle? (g : Lineage) : Option (List Nat) :=
  firstCycle? (g.successors · .owns) g.size

end Lineage

end ClusterLineage
