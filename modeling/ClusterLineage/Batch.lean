import ClusterLineage.Descriptor.Manifest

/-!
# Batches

A batch holds the descriptors of a cluster and may name the cluster.  It comes in three shapes: a
list of descriptors, an object with a list of resources, and a list of manifests as the cluster
hands it out.
-/

namespace ClusterLineage

/-- The descriptors to build from, and the name of the cluster if it comes with them. -/
structure Batch where
  descriptors : List Json
  rootName : Option Text := none

namespace Batch

/-- The items of an array; other values are none. -/
def list? : Json → Option (List Json)
  | .arr items => some items
  | _ => none

/-- A manifest as a descriptor; what is not an object stays as it is. -/
def ofItem (item : Json) : Json :=
  if item.isObject then Descriptor.ofManifest item else item

/-- The batch that a value holds, if it has one of the three shapes. -/
def ofJson? (payload : Json) : Option Batch :=
  match list? payload, list? (payload.get "resources"), list? (payload.get "items") with
  | some descriptors, _, _ => some ⟨descriptors, none⟩
  | none, some descriptors, _ => some ⟨descriptors, (payload.get "root_name").text?⟩
  | none, none, some items => some ⟨items.map ofItem, none⟩
  | none, none, none => none

/-- What to say of a value with none of the shapes. -/
def shapeMessage : String :=
  "expected a list of descriptors, a Kubernetes List, or an object with 'resources'"

end Batch

end ClusterLineage
