import ClusterLineage.Text.Basic

/-!
# Edges

Two types of edges join the nodes of a lineage: an owner owns what it has made, and resources that
depend on each other otherwise reference each other in both directions.
-/

namespace ClusterLineage

/-- The type of an edge. -/
inductive EdgeType where
  /-- From an owner to what it owns. -/
  | owns
  /-- Between a resource and another that it names or selects. -/
  | references
  deriving DecidableEq, Repr

/-- The name of a type of edges. -/
def EdgeType.name : EdgeType → Text
  | owns => "Owns"
  | references => "References"

/-- The type of edges that a text names. -/
def EdgeType.ofName? (text : Text) : Option EdgeType :=
  [owns, references].find? (·.name == text)

/-- An edge between two nodes, which are given by their indices. -/
structure Edge where
  source : Nat
  target : Nat
  type : EdgeType
  deriving DecidableEq, Repr

end ClusterLineage
