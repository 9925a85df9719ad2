import ClusterLineage.Declared.Field

/-!
# References of access rules

Service accounts and their secrets, and the bindings between roles and service accounts.  Roles
declare nothing themselves.
-/

namespace ClusterLineage.Access

/-- The secrets of a service account. -/
def serviceAccountRefs (raw : Json) : List Ref :=
  let secretRefs (field : Text) := found ((raw.get field).objects.map fun secret =>
    Ref.ofKind? .secret (secret.get "name") raw.ns?)
  secretRefs "secrets" ++ secretRefs "imagePullSecrets"

/-- The service account that one subject of a binding is.  The kind of a subject is matched in its
exact spelling. -/
def subjectRef? (ns : Option Text) (subject : Json) : Option Ref :=
  if (subject.get "kind").text? = some Kind.serviceAccount.name then
    Ref.ofKind? .serviceAccount (subject.get "name") ((subject.get "namespace").text? <|> ns)
  else none

/-- The service accounts among the subjects of a binding; `ns` is for those that name no
namespace. -/
def subjectRefs (ns : Option Text) (raw : Json) : List Ref :=
  found ((raw.get "subjects").objects.map (subjectRef? ns))

/-- The references of a binding in a namespace.  A role lives beside its binding; what it binds of
any other kind has no namespace. -/
def roleBindingRefs (raw : Json) : List Ref :=
  let roleRef := raw.get "roleRef"
  let ns := raw.ns?
  let kind := roleRef.get "kind"
  let roleNs := if kind.text? = some Kind.role.name then ns else none
  found [Ref.ofKindField? kind (roleRef.get "name") roleNs (roleRef.get "apiGroup")] ++
  subjectRefs ns raw

/-- The references of a binding for the whole cluster, which can only bind a cluster role. -/
def clusterRoleBindingRefs (raw : Json) : List Ref :=
  let roleRef := raw.get "roleRef"
  let role? :=
    if (roleRef.get "kind").text? = some Kind.clusterRole.name then
      Ref.named? Kind.clusterRole.name (roleRef.get "name") none (roleRef.get "apiGroup")
    else none
  found [role?] ++ subjectRefs none raw

end ClusterLineage.Access
