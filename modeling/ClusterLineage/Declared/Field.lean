import ClusterLineage.Json.Basic
import ClusterLineage.Resource

/-!
# References read from fields

A reference is read from the fields of a raw object.  A field that is absent, empty or of another
type yields no reference.
-/

namespace ClusterLineage

/-- The namespace of a raw object: the one in its metadata, or else one at the top level. -/
def Json.ns? (raw : Json) : Option Text :=
  (raw.path ["metadata", "namespace"]).text? <|> (raw.get "ns").text? <|>
    (raw.get "namespace").text?

namespace Ref

/-- A reference to the resource whose name a field holds. -/
def named? (kind : Text) (name : Json) (ns : Option Text) (apiVersion : Json) : Option Ref :=
  name.text?.map fun name => ⟨kind, name, ns, apiVersion.text?, none⟩

/-- A reference of a known kind. -/
def ofKind? (kind : Kind) (name : Json) (ns : Option Text) : Option Ref :=
  named? kind.name name ns .null

/-- A reference whose kind is a field too. -/
def ofKindField? (kind name : Json) (ns : Option Text) (apiVersion : Json) : Option Ref :=
  kind.text?.bind fun kind => named? kind name ns apiVersion

/-- A reference from an object that holds all its parts, with a kind to take if it names none. -/
def ofObject? (object : Json) (defaultKind : Option Text) : Option Ref := do
  let kind ← (object.get "kind").text? <|> defaultKind
  let name ← (object.get "name").text?
  return ⟨kind, name, (object.get "namespace").text?, (object.get "apiVersion").text?,
    (object.get "uid").text?⟩

end Ref

/-- The references that were found. -/
def found (refs : List (Option Ref)) : List Ref :=
  refs.filterMap id

end ClusterLineage
