import ClusterLineage.Lineage.Walk

/-!
# Selections

A selection is a set of nodes, given by their numbers in ascending order, that grows step by step
from one node: by the owners above it, by what it owns, and by what it references.  The cluster can
be the start of a selection, but no step adds it and no result shows it.
-/

namespace ClusterLineage

/-- Numbers of nodes, in ascending order. -/
abbrev Selection := List Nat

/-- A step that a selection grows by. -/
inductive Growth where
  | ancestors
  | descendants
  | references
  deriving DecidableEq, Repr

/-- The name of a step. -/
def Growth.name : Growth → Text
  | ancestors => "ancestors"
  | descendants => "descendants"
  | references => "references"

/-- The step that a text names. -/
def Growth.ofName? (text : Text) : Option Growth :=
  [ancestors, descendants, references].find? (·.name == text)

/-- The selected nodes other than the cluster. -/
def Selection.shown (s : Selection) : List Nat :=
  s.filter (· != 0)

namespace Lineage

/-- The selection of the node with a key. -/
def select? (g : Lineage) (key : Text) : Option Selection :=
  (g.indexOf? key).map fun i => [i]

/-- A selection with some more nodes, the cluster excepted. -/
def extend (g : Lineage) (s : Selection) (added : List Nat) : Selection :=
  (List.range g.size).filter fun i => s.contains i || (i != 0 && added.contains i)

/-- Adds all owners above selected nodes. -/
def withAncestors (g : Lineage) (s : Selection) : Selection :=
  g.extend s (s.flatMap g.ancestors)

/-- Adds all nodes below selected ones. -/
def withDescendants (g : Lineage) (s : Selection) : Selection :=
  g.extend s (s.flatMap g.descendants)

/-- Adds all nodes that selected ones reference. -/
def withReferences (g : Lineage) (s : Selection) : Selection :=
  g.extend s (s.flatMap (g.successors · .references))

/-- A selection grown by one step. -/
def grow (g : Lineage) (s : Selection) : Growth → Selection
  | .ancestors => g.withAncestors s
  | .descendants => g.withDescendants s
  | .references => g.withReferences s

/-- A selection and what it grows to, step by step. -/
def trail (g : Lineage) (s : Selection) : List Growth → List Selection
  | [] => [s]
  | growth :: rest => s :: g.trail (g.grow s growth) rest

/-- A selection after all of some steps. -/
def growAll (g : Lineage) (s : Selection) (steps : List Growth) : Selection :=
  steps.foldl g.grow s

/-- The resources with some numbers, in the order of their keys. -/
def sortedResources (g : Lineage) (indices : List Nat) : List Resource :=
  Text.sortedBy Resource.key (indices.filterMap (g.nodes[·]?))

/-- The nodes related to one: it and its owners, all that those own, and what all these
reference. -/
def relatedTo (g : Lineage) (i : Nat) : List Nat :=
  Selection.shown (g.withReferences (g.withDescendants (g.withAncestors [i])))

/-- The keys of the resources related to the one with a key; there are none for an unknown key. -/
def relatedKeys (g : Lineage) (key : Text) : List Text :=
  match g.indexOf? key with
  | some i => g.sortedKeys (g.relatedTo i)
  | none => []

/-- The nodes related to the one with a key. -/
def subgraphNodes (g : Lineage) (key : Text) : List Nat :=
  match g.indexOf? key with
  | some i => g.relatedTo i
  | none => []

/-- The edges between the nodes related to the one with a key. -/
def subgraphEdges (g : Lineage) (key : Text) : List Edge :=
  let nodes := g.subgraphNodes key
  g.orderedEdges.filter fun e => nodes.contains e.source && nodes.contains e.target

end Lineage

end ClusterLineage
