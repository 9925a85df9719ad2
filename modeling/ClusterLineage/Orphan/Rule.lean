import ClusterLineage.Orphan.Condition
import ClusterLineage.Orphan.Exemption

/-!
# Orphan rules

A resource is an orphan if its kind is expected to have consumers, none of those points at it, and
it is not a well-known system object.  Kinds without a rule have no orphans.
-/

namespace ClusterLineage.Orphan

/-- When resources of a kind are orphans, and which of them never are. -/
structure Rule where
  condition : Condition
  exemption : Option Exemption := none

/-- Whether a rule exempts a name and a namespace. -/
def Rule.exempts (r : Rule) (name : Text) (ns : Option Text) : Bool :=
  r.exemption.any (·.covers name ns)

/-- The condition that no resource of some known kinds references the resource. -/
def unreferencedBy (kinds : List Kind) : Condition :=
  .noIncomingFrom (kinds.map Kind.name)

/-- The kinds that run pods. -/
def workloads : List Kind :=
  [.deployment, .statefulSet, .daemonSet, .replicaSet, .job, .cronJob]

/-- The orphan rule of a kind.  Of secrets only tokens are judged: others often have consumers
outside the cluster. -/
def Rule.ofKind? : Kind → Option Rule
  | .configMap => some ⟨.noIncomingRefs, some (.pattern configMaps)⟩
  | .secret => some ⟨.all [.isServiceAccountToken, .noIncomingRefs], some (.pattern secrets)⟩
  | .service => some ⟨unreferencedBy [.pod, .ingress, .statefulSet, .apiService,
      .validatingWebhookConfiguration, .mutatingWebhookConfiguration], some (.pattern services)⟩
  | .serviceAccount => some ⟨unreferencedBy (.pod :: workloads ++ [.roleBinding,
      .clusterRoleBinding]), some (.pattern serviceAccounts)⟩
  | .persistentVolumeClaim => some ⟨unreferencedBy (.pod :: workloads), none⟩
  | .persistentVolume => some ⟨unreferencedBy [.persistentVolumeClaim], none⟩
  | .storageClass => some ⟨unreferencedBy [.persistentVolumeClaim, .persistentVolume], none⟩
  | .clusterRole =>
    some ⟨unreferencedBy [.clusterRoleBinding, .roleBinding], some (.pattern clusterRoles)⟩
  | .role => some ⟨unreferencedBy [.roleBinding], some .systemRoles⟩
  | .roleBinding => some ⟨.any [unreferencedBy [.role, .clusterRole],
      .hasMissingRef Kind.serviceAccount.name], some .systemRoleBindings⟩
  | .clusterRoleBinding => some ⟨.any [unreferencedBy [.clusterRole],
      .hasMissingRef Kind.serviceAccount.name], some (.pattern clusterRoleBindings)⟩
  | .horizontalPodAutoscaler =>
    some ⟨unreferencedBy [.deployment, .statefulSet, .replicaSet], none⟩
  | .networkPolicy => some ⟨unreferencedBy [.pod], some (.pattern platformPolicies)⟩
  | .podDisruptionBudget => some ⟨unreferencedBy [.pod], some (.pattern platformPolicies)⟩
  | .ingressClass => some ⟨unreferencedBy [.ingress], none⟩
  | .ingress => some ⟨unreferencedBy [.service], none⟩
  | .replicaSet => some ⟨.all [.noOwner, unreferencedBy [.pod]], none⟩
  | .pod | .deployment | .statefulSet | .daemonSet | .job | .cronJob | .endpointSlice
  | .validatingWebhookConfiguration | .mutatingWebhookConfiguration | .apiService | .nameSpace
  | .node | .event | .priorityClass | .runtimeClass | .csiDriver => none

/-- Whether a resource is an orphan, given its kind in any letter case, its name and namespace, and
the evidence about it. -/
def isOrphan (kind name : Text) (ns : Option Text) (e : Evidence) : Bool :=
  match (Kind.ofName? kind).bind Rule.ofKind? with
  | none => false
  | some rule => !rule.exempts name ns && rule.condition.holds e

end ClusterLineage.Orphan
