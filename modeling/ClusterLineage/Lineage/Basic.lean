import ClusterLineage.Lineage.Links
import ClusterLineage.Text.Sorted

/-!
# Lineages

A lineage holds the resources of one cluster, each under a key of its own, and what linking derives
from them once that has been done.  The cluster itself is the root.  Nodes are known by their
number: zero is the root, and the resources follow in the order in which they came.
-/

namespace ClusterLineage

/-- The resources of a cluster, linked or not. -/
structure Lineage where
  /-- The cluster itself. -/
  root : Resource
  /-- The resources of the cluster, in the order in which they came. -/
  members : List Resource := []
  /-- No two nodes have the same key. -/
  nodup_keys : ((root :: members).map Resource.key).Nodup
  /-- What linking has derived, once it is done. -/
  links? : Option Links := none
  /-- Linking depends on the resources alone. -/
  links_eq : ∀ links ∈ links?, links = Links.of root members := by simp

namespace Lineage

/-- A lineage of a cluster without resources. -/
def ofRoot (root : Resource) : Lineage where
  root := root
  nodup_keys := by simp

/-- All resources, the cluster first. -/
def nodes (g : Lineage) : List Resource :=
  g.root :: g.members

/-- The keys of all nodes, in order. -/
def keys (g : Lineage) : List Text :=
  g.nodes.map Resource.key

/-- The number of nodes. -/
def size (g : Lineage) : Nat :=
  g.nodes.length

/-- Whether the lineage has been linked. -/
def isLinked (g : Lineage) : Bool :=
  g.links?.isSome

/-- What linking has derived: nothing before it is done. -/
def links (g : Lineage) : Links :=
  g.links?.getD {}

/-- All edges, in the order in which they arose. -/
def edges (g : Lineage) : List Edge :=
  g.links.edges

/-- The references that lead nowhere, in the order of their discovery. -/
def unresolved (g : Lineage) : List Unresolved :=
  g.links.unresolved

/-- Whether the node with a number is an orphan. -/
def isOrphan (g : Lineage) (i : Nat) : Bool :=
  g.links.orphans.contains i

/-- The number of the node with a key, which may be given in any letter case. -/
def indexOf? (g : Lineage) (key : Text) : Option Nat :=
  g.keys.idxOf? (Text.lower key)

/-- Whether a node has the key. -/
def contains (g : Lineage) (key : Text) : Bool :=
  (g.indexOf? key).isSome

/-- The key of the node with a number. -/
def keyAt? (g : Lineage) (i : Nat) : Option Text :=
  g.nodes[i]?.map Resource.key

/-- The sorted keys of the nodes with some numbers. -/
def sortedKeys (g : Lineage) (indices : List Nat) : List Text :=
  Text.sorted (indices.filterMap g.keyAt?)

/-- The sorted keys of all orphans. -/
def orphanKeys (g : Lineage) : List Text :=
  g.sortedKeys g.links.orphans

/-- The references of the node with a number that lead nowhere. -/
def unresolvedFrom (g : Lineage) (i : Nat) : List Unresolved :=
  match g.keyAt? i with
  | some key => g.unresolved.filter (·.source == key)
  | none => []

/-- A lineage with one more resource, not linked. -/
def insert (g : Lineage) (r : Resource) (fresh : r.key ∉ g.keys) : Lineage where
  root := g.root
  members := g.members ++ [r]
  nodup_keys := by
    have h := g.nodup_keys
    rw [← List.cons_append, List.map_append, List.nodup_append]
    refine ⟨h, by simp, fun a ha b hb hab => fresh ?_⟩
    simp only [List.map_cons, List.map_nil, List.mem_singleton] at hb
    exact hb ▸ hab ▸ ha

@[simp]
theorem nodes_insert (g : Lineage) (r : Resource) (fresh : r.key ∉ g.keys) :
    (g.insert r fresh).nodes = g.nodes ++ [r] := rfl

@[simp]
theorem keys_insert (g : Lineage) (r : Resource) (fresh : r.key ∉ g.keys) :
    (g.insert r fresh).keys = g.keys ++ [r.key] := by
  simp [keys]

@[simp]
theorem isLinked_insert (g : Lineage) (r : Resource) (fresh : r.key ∉ g.keys) :
    (g.insert r fresh).isLinked = false := rfl

/-- A lineage with what linking derives. -/
def withLinks (g : Lineage) : Lineage where
  root := g.root
  members := g.members
  nodup_keys := g.nodup_keys
  links? := some (.of g.root g.members)
  links_eq := by simp

@[simp]
theorem nodes_withLinks (g : Lineage) : g.withLinks.nodes = g.nodes := rfl

@[simp]
theorem isLinked_withLinks (g : Lineage) : g.withLinks.isLinked = true := rfl

@[simp]
theorem links_withLinks (g : Lineage) : g.withLinks.links = .of g.root g.members := rfl

/-- Before linking nothing is derived. -/
theorem links_of_not_linked (g : Lineage) (h : g.isLinked = false) : g.links = {} := by
  simp only [isLinked, Option.isSome_eq_false_iff, Option.isNone_iff_eq_none] at h
  simp [links, h]

/-- Once linked, a lineage holds what its resources determine. -/
theorem links_of_linked (g : Lineage) (h : g.isLinked = true) :
    g.links = .of g.root g.members := by
  obtain ⟨links, hlinks⟩ := Option.isSome_iff_exists.mp h
  simp only [Lineage.links, hlinks, Option.getD_some]
  exact g.links_eq links hlinks

end Lineage

end ClusterLineage
