import ClusterLineage.Resource
import ClusterLineage.Text.Sorted

/-!
# Unresolved references

References whose target is not part of the batch, and a report that groups them by the kind of the
target.
-/

namespace ClusterLineage

/-- A reference that leads nowhere: the key of the resource that declares it, and the kind in its
canonical spelling, name and namespace of the target. -/
structure Unresolved where
  source : Text
  kind : Text
  name : Text
  ns : Option Text := none
  deriving DecidableEq, Repr

namespace Unresolved

/-- The reference of a resource as one that leads nowhere. -/
def ofRef (r : Resource) (ref : Ref) : Unresolved :=
  ⟨r.key, Kind.canonical ref.kind, ref.name, ref.ns⟩

/-- The target as text: its name, after its namespace if there is one. -/
def target (u : Unresolved) : Text :=
  match Text.proper? u.ns with
  | none => u.name
  | some ns => ns ++ "/" ++ u.name

/-- The line about a reference in a report. -/
def line (u : Unresolved) : Text :=
  u.kind ++ " " ++ u.target ++ " (referenced by " ++ u.source ++ ")"

/-- Whether a reference comes before another one to the same kind, or may do so: by target, then by
source. -/
def precedes (a b : Unresolved) : Bool :=
  if a.target = b.target then a.source.le b.source else a.target.le b.target

/-- The references to each kind, by kind and then by target and source. -/
def report (us : List Unresolved) : List (Text × List Unresolved) :=
  (Text.sorted (us.map kind).eraseDups).map fun k =>
    (k, (us.filter (·.kind == k)).mergeSort precedes)

/-- The lines of a report. -/
def reportLines (groups : List (Text × List Unresolved)) : List Text :=
  groups.flatMap fun (_, us) => us.map line

/-- The targets of some references by kind, in the order of the first reference to each. -/
def targetsByKind (us : List Unresolved) : List (Text × List Text) :=
  (us.map kind).eraseDups.map fun k => (k, (us.filter (·.kind == k)).map target)

end Unresolved

end ClusterLineage
