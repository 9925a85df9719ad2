import ClusterLineage.Kind

/-!
# Resources and references

A resource is one declared object of a cluster, and a reference points at one by kind, namespace
and name.  Both have a key, the same for all spellings of one target; everything is matched by key.
-/

namespace ClusterLineage

/-- The text before it is written small: kind and name, with the namespace between them if there is
one that is not empty. -/
def keyText (kind : Text) (ns : Option Text) (name : Text) : Text :=
  match Text.proper? ns with
  | none => kind ++ "/" ++ name
  | some ns => kind ++ "/" ++ ns ++ "/" ++ name

/-- The key of a resource, the same in any letter case. -/
def key (kind : Text) (ns : Option Text) (name : Text) : Text :=
  Text.lower (keyText kind ns name)

/-- A pointer to a resource.  Kind, namespace and name identify it; the other two are carried along
for display. -/
structure Ref where
  kind : Text
  name : Text
  ns : Option Text := none
  apiVersion : Option Text := none
  uid : Option Text := none
  deriving DecidableEq, Repr

/-- The key of the resource that a reference points at. -/
def Ref.key (r : Ref) : Text :=
  ClusterLineage.key r.kind r.ns r.name

/-- Whether two references point at the same resource. -/
def Ref.sameTarget (a b : Ref) : Bool :=
  a.key == b.key

/-- A map from texts to texts, in the order of its entries. -/
abbrev Labels := List (Text × Text)

/-- Whether labels carry every pair of a selector. -/
def Labels.matchedBy (labels selectors : Labels) : Bool :=
  selectors.all fun (name, value) => labels.lookup name == some value

/-- A declared resource. -/
structure Resource where
  kind : Text
  name : Text
  ns : Option Text := none
  apiVersion : Option Text := none
  uid : Option Text := none
  labels : Option Labels := none
  selectors : Option Labels := none
  /-- The declared owners; the first one counts. -/
  owners : List Ref := []
  /-- What the resource refers to by name. -/
  relations : List Ref := []
  /-- The type that a secret declares. -/
  resourceType : Option Text := none
  deriving DecidableEq, Repr

namespace Resource

/-- The key of the resource. -/
def key (r : Resource) : Text :=
  ClusterLineage.key r.kind r.ns r.name

/-- Whether the resource holds configuration.  Such resources are drawn apart and no selector
reaches them. -/
def isSensitive (r : Resource) : Bool :=
  match Kind.ofName? r.kind with
  | some .configMap | some .secret => true
  | _ => false

/-- Whether the selectors of one resource reach another. -/
def selects (r target : Resource) : Bool :=
  match r.selectors, target.labels with
  | some (s :: selectors), some (l :: labels) =>
    Labels.matchedBy (l :: labels) (s :: selectors) && !target.isSensitive
  | _, _ => false

end Resource

end ClusterLineage
