import ClusterLineage.Orphan.Rule
import ClusterLineage.Unresolved

/-!
# What linking derives

Everything that linking adds to the resources of a batch follows from the resources alone: the
edges, the references that lead nowhere, and which resources are orphans.  Resources are numbered in
their order, the cluster itself being number zero.
-/

namespace ClusterLineage

/-- What linking derives from the resources of a batch. -/
structure Links where
  /-- All edges, in the order in which they arise. -/
  edges : List Edge := []
  /-- The references that lead nowhere, by resource and then as declared. -/
  unresolved : List Unresolved := []
  /-- The numbers of the orphans. -/
  orphans : List Nat := []
  deriving DecidableEq, Repr

namespace Links

/-- The resources other than the cluster, each with its number. -/
def numbered (members : List Resource) : List (Resource × Nat) :=
  members.zipIdx 1

/-- The number of the resource that a reference points at, given the keys of all in order. -/
def resolve? (keys : List Text) (ref : Ref) : Option Nat :=
  keys.idxOf? ref.key

/-- The number of the owner of a resource: that of its first declared owner, or the cluster if the
owner is not in the batch or none is declared. -/
def ownerOf (keys : List Text) (r : Resource) : Nat :=
  (r.owners.head?.bind (resolve? keys)).getD 0

/-- The edges of a reference between two resources, one each way. -/
def bothWays (a b : Nat) : List Edge :=
  [⟨a, b, .references⟩, ⟨b, a, .references⟩]

/-- One edge to each resource from its owner. -/
def ownerEdges (keys : List Text) (members : List Resource) : List Edge :=
  (numbered members).map fun (r, i) => ⟨ownerOf keys r, i, .owns⟩

/-- The edges of each resource with all others that its selectors reach. -/
def selectorEdges (members : List Resource) : List Edge :=
  (numbered members).flatMap fun (r, i) =>
    (numbered members).flatMap fun (target, j) =>
      if i ≠ j && r.selects target then bothWays i j else []

/-- The edges of each resource with what it refers to by name. -/
def relationEdges (keys : List Text) (members : List Resource) : List Edge :=
  (numbered members).flatMap fun (r, i) =>
    r.relations.flatMap fun ref =>
      match resolve? keys ref with
      | some j => bothWays i j
      | none => []

/-- The references of one resource that lead nowhere. -/
def unresolvedOf (keys : List Text) (r : Resource) : List Unresolved :=
  (r.relations.filter fun ref => (resolve? keys ref).isNone).map (.ofRef r)

/-- The evidence about a resource.  Edges from the cluster are none. -/
def evidence (nodes : List Resource) (edges : List Edge) (r : Resource) (i : Nat) :
    Orphan.Evidence where
  incoming := edges.filterMap fun e =>
    if e.target = i && e.source ≠ 0 then nodes[e.source]?.map fun source => (e.type, source.kind)
    else none
  labels := r.labels
  resourceType := r.resourceType
  missingKinds := (unresolvedOf (nodes.map Resource.key) r).map Unresolved.kind

/-- Whether a resource is an orphan. -/
def isOrphan (nodes : List Resource) (edges : List Edge) (r : Resource) (i : Nat) : Bool :=
  Orphan.isOrphan r.kind r.name r.ns (evidence nodes edges r i)

/-- What linking derives from a cluster and its resources. -/
def of (root : Resource) (members : List Resource) : Links :=
  let nodes := root :: members
  let keys := nodes.map Resource.key
  let edges := ownerEdges keys members ++ selectorEdges members ++ relationEdges keys members
  { edges := edges
    unresolved := members.flatMap (unresolvedOf keys)
    orphans := ((numbered members).filter fun (r, i) => isOrphan nodes edges r i).map (·.2) }

end Links

end ClusterLineage
