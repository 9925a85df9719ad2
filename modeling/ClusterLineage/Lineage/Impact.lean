import ClusterLineage.Lineage.Walk

/-!
# The impact of a change

A change to a resource affects what references it, and everything that those own.
-/

namespace ClusterLineage

/-- Why a change affects a resource. -/
inductive ImpactReason where
  /-- It references the changed one. -/
  | references
  /-- Something above it references the changed one. -/
  | ownedByAffected
  deriving DecidableEq, Repr

/-- The wording of a reason. -/
def ImpactReason.text : ImpactReason → String
  | references => "references"
  | ownedByAffected => "owned by affected"

/-- A resource that a change affects. -/
structure Impact where
  key : Text
  reason : ImpactReason
  deriving DecidableEq, Repr

namespace Lineage

/-- The nodes that reference a node, it and the cluster excepted. -/
def referrers (g : Lineage) (i : Nat) : List Nat :=
  unvisited [i, 0] (g.predecessors i .references)

/-- The nodes below others, except for those themselves, for the changed one and the cluster. -/
def ownedBelow (g : Lineage) (i : Nat) (above : List Nat) : List Nat :=
  unvisited (above ++ [i, 0]) (above.flatMap g.descendants)

/-- What a change to the resource with a key affects, in the order of the keys. -/
def impactOf (g : Lineage) (key : Text) : List Impact :=
  match g.indexOf? key with
  | none => []
  | some i =>
    let direct := g.referrers i
    let entries (reason : ImpactReason) (indices : List Nat) : List Impact :=
      (indices.filterMap g.keyAt?).map fun k => ⟨k, reason⟩
    Text.sortedBy Impact.key
      (entries .references direct ++ entries .ownedByAffected (g.ownedBelow i direct))

end Lineage

end ClusterLineage
