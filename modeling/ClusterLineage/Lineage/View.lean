import ClusterLineage.Json.Basic
import ClusterLineage.Lineage.Neighbours
import ClusterLineage.Lineage.Ownership

/-!
# The tree of a lineage

What a view of a tree shows: each node with the keys of its owner, of what it owns and of what it
references.
-/

namespace ClusterLineage

/-- What a tree shows of one node. -/
structure NodeView where
  key : Text
  kind : Text
  name : Text
  ns : Option Text
  parent : Option Text
  children : List Text
  leaves : List Text
  isOrphan : Bool
  deriving DecidableEq, Repr

/-- A node as data. -/
def NodeView.toJson (v : NodeView) : Json :=
  .obj [("key", .str v.key), ("kind", .str v.kind), ("name", .str v.name), ("ns", .ofText? v.ns),
    ("parent_key", .ofText? v.parent), ("children_keys", .ofTexts v.children),
    ("leaf_keys", .ofTexts v.leaves), ("is_orphan", .bool v.isOrphan)]

/-- A whole lineage, its nodes in the order of their keys. -/
structure Tree where
  id : Text
  root : Text
  nodes : List NodeView
  deriving DecidableEq, Repr

/-- A tree as data. -/
def Tree.toJson (t : Tree) : Json :=
  .obj [("tree_id", .str t.id), ("root_key", .str t.root),
    ("nodes", .arr (t.nodes.map NodeView.toJson))]

namespace Lineage

/-- The key of the owner of a node. -/
def parentKey? (g : Lineage) (i : Nat) : Option Text :=
  (g.parent? i).bind g.keyAt?

/-- The keys of what a node owns. -/
def childKeys (g : Lineage) (i : Nat) : List Text :=
  g.sortedKeys (g.successors i .owns)

/-- The keys of what a node references. -/
def leafKeys (g : Lineage) (i : Nat) : List Text :=
  g.sortedKeys (g.successors i .references)

/-- What a tree shows of the node with a number. -/
def view? (g : Lineage) (i : Nat) : Option NodeView :=
  g.nodes[i]?.map fun r =>
    { key := r.key, kind := r.kind, name := r.name, ns := r.ns, parent := g.parentKey? i,
      children := g.childKeys i, leaves := g.leafKeys i, isOrphan := g.isOrphan i }

/-- The tree of the lineage; without a name of its own it has that of the cluster. -/
def tree (g : Lineage) (id : Option Text) : Tree where
  id := id.getD g.root.name
  root := g.root.key
  nodes := Text.sortedBy NodeView.key ((List.range g.size).filterMap g.view?)

end Lineage

end ClusterLineage
