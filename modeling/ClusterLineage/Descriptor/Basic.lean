import ClusterLineage.Declared.Refs
import ClusterLineage.Json.Display

/-!
# Descriptors

A descriptor is the flat object that describes one resource: kind, name and namespace at the top
level, labels and selectors as objects, and all other fields of the raw object.  Reading one needs
a kind and a name; everything else may be missing.
-/

namespace ClusterLineage.Descriptor

/-- Why a value does not describe a resource. -/
inductive Defect where
  /-- It is not an object; the name of its type is reported. -/
  | notAnObject (typeName : String)
  /-- It lacks a kind or a name; what it has of them is reported. -/
  | incomplete (kind name : Option Text)
  deriving DecidableEq, Repr

/-- The map of texts that an object with members is: values other than texts are taken by their
text, and members that are `null` are left out. -/
def labels? (j : Json) : Option Labels :=
  j.entries?.map fun entries => entries.filterMap fun (name, value) =>
    match value with
    | .null => none
    | value => some (name, value.display)

/-- An owner, which lives in the namespace of what it owns unless it names another. -/
def owner? (ns : Option Text) (owner : Json) : Option Ref := do
  let kind ← (owner.get "kind").text?
  let name ← (owner.get "name").text?
  return ⟨kind, name, (owner.get "namespace").text? <|> ns, (owner.get "apiVersion").text?,
    (owner.get "uid").text?⟩

/-- The owners that a raw object declares. -/
def owners (ns : Option Text) (raw : Json) : List Ref :=
  (raw.path ["metadata", "ownerReferences"]).objects.filterMap (owner? ns)

/-- The type that a raw object declares, which may be empty. -/
def resourceType? (raw : Json) : Option Text :=
  match raw.get "type" with
  | .str s => some s
  | _ => none

/-- The name of a raw object: the one at the top level, or else the one in its metadata. -/
def name? (raw : Json) : Option Text :=
  (raw.get "name").text? <|> (raw.path ["metadata", "name"]).text?

/-- The resource that a raw object of some kind and name describes. -/
def resource (kind name : Text) (raw : Json) : Resource where
  kind := kind
  name := name
  ns := raw.ns?
  apiVersion := (raw.get "apiVersion").text?
  uid := (raw.path ["metadata", "uid"]).text?
  labels := labels? (raw.get "labels")
  selectors := labels? (raw.get "selectors")
  owners := owners raw.ns? raw
  relations := declaredRefs kind raw
  resourceType := resourceType? raw

/-- The resource that a value describes. -/
def read (j : Json) : Except Defect Resource :=
  if j.isObject then
    match (j.get "kind").text?, name? j with
    | some kind, some name => .ok (resource kind name j)
    | kind, name => .error (.incomplete kind name)
  else .error (.notAnObject j.typeName)

/-- A value that describes a resource has a kind and a name, and all else is read from its fields. -/
theorem exists_eq_resource_of_read {j : Json} {r : Resource} (h : read j = .ok r) :
    ∃ kind name, (j.get "kind").text? = some kind ∧ name? j = some name ∧
      r = resource kind name j := by
  unfold read at h
  split at h
  · split at h
    · next kind name hkind hname => exact ⟨kind, name, hkind, hname, (Except.ok.inj h).symm⟩
    · cases h
  · cases h

end ClusterLineage.Descriptor
