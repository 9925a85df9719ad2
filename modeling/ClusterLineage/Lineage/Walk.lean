import ClusterLineage.Lineage.Ownership

/-!
# Walks along ownership

From a node one can walk up, from owner to owner, or down, depth first, to all that is below it.  A
walk remembers where it has been and does not go there again, so no cycle of ownership holds it up.
The numbers of steps and levels only bound it: as many as there are nodes are enough.
-/

namespace ClusterLineage

/-- Walks up from a node by so many steps at most, after some nodes have been passed: the owners on
the way, the nearest first.  The walk ends below the cluster, or where it comes to a node that has
been passed. -/
def climb (parent? : Nat → Option Nat) : Nat → List Nat → Nat → List Nat
  | 0, _, _ => []
  | steps + 1, passed, i =>
    match parent? i with
    | none => []
    | some p =>
      if p = 0 || passed.contains p then [] else p :: climb parent? steps (p :: passed) p

/-- Walks down from a node, depth first and so many levels at most, after some nodes have been
visited.  The result are all nodes visited then, the last one first. -/
def descend (owned : Nat → List Nat) : Nat → List Nat → Nat → List Nat
  | 0, visited, _ => visited
  | levels + 1, visited, i =>
    if visited.contains i then visited
    else (owned i).foldl (descend owned levels) (i :: visited)

/-- Those of some nodes that have not been visited, each once, in their order. -/
def unvisited (visited : List Nat) : List Nat → List Nat
  | [] => []
  | j :: js =>
    if visited.contains j then unvisited visited js else j :: unvisited (j :: visited) js

namespace Lineage

/-- The owners above a node, the cluster excepted, the nearest first. -/
def ancestors (g : Lineage) (i : Nat) : List Nat :=
  climb g.parent? g.size [i] i

/-- A node and all that is below it, in the order in which a walk down comes to them. -/
def descendants (g : Lineage) (i : Nat) : List Nat :=
  (descend (g.successors · .owns) g.size [] i).reverse

end Lineage

end ClusterLineage
