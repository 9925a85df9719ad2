import ClusterLineage.Edge
import ClusterLineage.Resource

/-!
# Conditions of orphans

A condition looks at the evidence about one resource: the edges that come in from other resources,
its labels and type, and what it refers to in vain.  `Condition.holds` is the only reading of a
condition.
-/

namespace ClusterLineage.Orphan

/-- What a condition may look at. -/
structure Evidence where
  /-- The type of each incoming edge and the kind of its source, the cluster itself left out. -/
  incoming : List (EdgeType × Text) := []
  labels : Option Labels := none
  resourceType : Option Text := none
  /-- The kinds of the references that lead nowhere. -/
  missingKinds : List Text := []
  deriving DecidableEq, Repr

/-- The type of secrets that hold the token of a service account. -/
def serviceAccountTokenType : Text := "kubernetes.io/service-account-token"

/-- The label that names the service account of a token. -/
def serviceAccountNameLabel : Text := "kubernetes.io/service-account.name"

/-- Whether the resource is the token of a service account, by its type or by its labels. -/
def Evidence.isServiceAccountToken (e : Evidence) : Bool :=
  e.resourceType == some serviceAccountTokenType ||
    (e.labels.getD []).any (·.1 == serviceAccountNameLabel)

/-- A condition under which a resource is an orphan. -/
inductive Condition where
  /-- Nothing references the resource. -/
  | noIncomingRefs
  /-- No resource of these kinds references it. -/
  | noIncomingFrom (kinds : List Text)
  /-- It refers in vain to a resource of the kind. -/
  | hasMissingRef (kind : Text)
  /-- Nothing but the cluster owns it. -/
  | noOwner
  /-- It is the token of a service account. -/
  | isServiceAccountToken
  /-- All the conditions hold. -/
  | all (conditions : List Condition)
  /-- One of the conditions holds. -/
  | any (conditions : List Condition)
  deriving Inhabited

mutual

/-- Whether a condition holds on the evidence. -/
def Condition.holds (e : Evidence) : Condition → Bool
  | .noIncomingRefs => !e.incoming.any fun (type, _) => type == .references
  | .noIncomingFrom kinds =>
    !e.incoming.any fun (type, kind) => type == .references && kinds.any (Text.sameLower kind)
  | .hasMissingRef kind => e.missingKinds.any (Text.sameLower kind)
  | .noOwner => !e.incoming.any fun (type, _) => type == .owns
  | .isServiceAccountToken => e.isServiceAccountToken
  | .all conditions => Condition.allHold e conditions
  | .any conditions => Condition.anyHolds e conditions

/-- Whether all the conditions hold. -/
def Condition.allHold (e : Evidence) : List Condition → Bool
  | [] => true
  | c :: cs => c.holds e && Condition.allHold e cs

/-- Whether one of the conditions holds. -/
def Condition.anyHolds (e : Evidence) : List Condition → Bool
  | [] => false
  | c :: cs => c.holds e || Condition.anyHolds e cs

end

end ClusterLineage.Orphan
