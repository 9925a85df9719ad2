import ClusterLineage.Descriptor.Basic

/-!
# Descriptors from manifests

A manifest is a raw object as the cluster hands it out.  Flattening keeps all its fields, lifts
name, namespace and labels out of the metadata, and takes the selectors from where the kind
declares them.
-/

namespace ClusterLineage.Descriptor

/-- Where resources of a kind declare the labels that they select. -/
def selectorPath? : Kind → Option (List Text)
  | .service => some ["spec", "selector"]
  | .deployment | .replicaSet | .statefulSet | .daemonSet | .job | .podDisruptionBudget =>
    some ["spec", "selector", "matchLabels"]
  | .networkPolicy => some ["spec", "podSelector", "matchLabels"]
  | _ => none

/-- The selectors of a manifest, if it has some. -/
def manifestSelectors? (manifest : Json) : Option (List (Text × Json)) := do
  let kind ← (manifest.get "kind").text?
  let path ← (Kind.ofName? kind).bind selectorPath?
  (manifest.path path).entries?

/-- The labels of a manifest, unless they are nothing. -/
def manifestLabels? (manifest : Json) : Option Json :=
  let labels := manifest.path ["metadata", "labels"]
  if labels.isPresent then some labels else none

/-- Sets a member to a value if there is one. -/
def setIfSome (name : Text) (value : Option Json) (members : List (Text × Json)) :
    List (Text × Json) :=
  match value with
  | some v => Json.setMember name v members
  | none => members

/-- The descriptor of a manifest. -/
def ofManifest (manifest : Json) : Json :=
  let text (path : List Text) := Json.ofText? (manifest.path path).text?
  .obj <|
    setIfSome "selectors" ((manifestSelectors? manifest).map .obj) <|
    setIfSome "labels" (manifestLabels? manifest) <|
    Json.setMember "ns" (text ["metadata", "namespace"]) <|
    Json.setMember "name" (text ["metadata", "name"]) manifest.members

end ClusterLineage.Descriptor
