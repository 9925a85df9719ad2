import ClusterLineage.Lineage.Basic

/-!
# Neighbours

The edges at a node, and all edges in the order of the graph: by source, then by target in the order
in which the source got its first edge to it, parallel edges in the order in which they arose.
-/

namespace ClusterLineage.Lineage

/-- The edges out of a node. -/
def edgesFrom (g : Lineage) (i : Nat) : List Edge :=
  g.edges.filter (·.source == i)

/-- The edges into a node. -/
def edgesTo (g : Lineage) (i : Nat) : List Edge :=
  g.edges.filter (·.target == i)

/-- The targets of the edges out of a node, each once, in the order of the first edges to them. -/
def targets (g : Lineage) (i : Nat) : List Nat :=
  ((g.edgesFrom i).map Edge.target).eraseDups

/-- The sources of the edges into a node, each once, in the order of the first edges from them. -/
def sources (g : Lineage) (i : Nat) : List Nat :=
  ((g.edgesTo i).map Edge.source).eraseDups

/-- Whether an edge of a type leads from one node to another. -/
def hasEdge (g : Lineage) (source target : Nat) (type : EdgeType) : Bool :=
  g.edges.contains ⟨source, target, type⟩

/-- The targets of the edges of one type out of a node. -/
def successors (g : Lineage) (i : Nat) (type : EdgeType) : List Nat :=
  (g.targets i).filter fun j => g.hasEdge i j type

/-- The sources of the edges of one type into a node. -/
def predecessors (g : Lineage) (i : Nat) (type : EdgeType) : List Nat :=
  (g.sources i).filter fun j => g.hasEdge j i type

/-- All edges in the order of the graph. -/
def orderedEdges (g : Lineage) : List Edge :=
  (List.range g.size).flatMap fun i =>
    let out := g.edgesFrom i
    (g.targets i).flatMap fun j => out.filter (·.target == j)

end ClusterLineage.Lineage
