import ClusterLineage.Declared.Access
import ClusterLineage.Declared.Storage
import ClusterLineage.Declared.Traffic
import ClusterLineage.Declared.Workload

/-!
# The references that a raw object declares

What a raw object refers to by name, according to its kind.  The kinds without references of their
own are reached from others, by name or by selectors.
-/

namespace ClusterLineage

/-- What an event is about. -/
def eventRefs (raw : Json) : List Ref :=
  found [Ref.ofObject? (raw.get "involvedObject") none, Ref.ofObject? (raw.get "related") none]

/-- The references that a raw object of a known kind declares, in order. -/
def Kind.declaredRefs : Kind → Json → List Ref
  | pod => Workload.podRefs
  | deployment | replicaSet | daemonSet | job => Workload.templateRefs
  | cronJob => Workload.jobTemplateRefs
  | statefulSet => Workload.statefulRefs
  | horizontalPodAutoscaler => Workload.scaleTargetRefs
  | ingress => Traffic.ingressRefs
  | ingressClass => Traffic.ingressClassRefs
  | validatingWebhookConfiguration | mutatingWebhookConfiguration => Traffic.webhookRefs
  | apiService => Traffic.apiServiceRefs
  | serviceAccount => Access.serviceAccountRefs
  | roleBinding => Access.roleBindingRefs
  | clusterRoleBinding => Access.clusterRoleBindingRefs
  | persistentVolumeClaim => Storage.claimRefs
  | persistentVolume => Storage.volumeRefs
  | event => eventRefs
  | service | networkPolicy | endpointSlice | configMap | secret | storageClass | role
  | clusterRole | podDisruptionBudget | nameSpace | node | priorityClass | runtimeClass
  | csiDriver => fun _ => []

/-- The references that a raw object declares, given its kind in any letter case. -/
def declaredRefs (kind : Text) (raw : Json) : List Ref :=
  match Kind.declaring? kind with
  | some k => k.declaredRefs raw
  | none => []

end ClusterLineage
