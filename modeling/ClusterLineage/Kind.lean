import ClusterLineage.Text.Lowercase

/-!
# Kinds of resources

The kinds that the library knows, each with its canonical spelling.  A kind is looked up without
regard to letter case; any other kind is carried along as the text that it is.
-/

namespace ClusterLineage

/-- A known kind of resource. -/
inductive Kind where
  | pod
  | deployment
  | replicaSet
  | statefulSet
  | daemonSet
  | job
  | cronJob
  | service
  | ingress
  | ingressClass
  | networkPolicy
  | endpointSlice
  | configMap
  | secret
  | persistentVolumeClaim
  | persistentVolume
  | storageClass
  | serviceAccount
  | role
  | roleBinding
  | clusterRole
  | clusterRoleBinding
  | validatingWebhookConfiguration
  | mutatingWebhookConfiguration
  | apiService
  | horizontalPodAutoscaler
  | podDisruptionBudget
  | nameSpace
  | node
  | event
  | priorityClass
  | runtimeClass
  | csiDriver
  deriving DecidableEq, Repr

namespace Kind

/-- The canonical spelling. -/
def name : Kind → Text
  | pod => "Pod"
  | deployment => "Deployment"
  | replicaSet => "ReplicaSet"
  | statefulSet => "StatefulSet"
  | daemonSet => "DaemonSet"
  | job => "Job"
  | cronJob => "CronJob"
  | service => "Service"
  | ingress => "Ingress"
  | ingressClass => "IngressClass"
  | networkPolicy => "NetworkPolicy"
  | endpointSlice => "EndpointSlice"
  | configMap => "ConfigMap"
  | secret => "Secret"
  | persistentVolumeClaim => "PersistentVolumeClaim"
  | persistentVolume => "PersistentVolume"
  | storageClass => "StorageClass"
  | serviceAccount => "ServiceAccount"
  | role => "Role"
  | roleBinding => "RoleBinding"
  | clusterRole => "ClusterRole"
  | clusterRoleBinding => "ClusterRoleBinding"
  | validatingWebhookConfiguration => "ValidatingWebhookConfiguration"
  | mutatingWebhookConfiguration => "MutatingWebhookConfiguration"
  | apiService => "APIService"
  | horizontalPodAutoscaler => "HorizontalPodAutoscaler"
  | podDisruptionBudget => "PodDisruptionBudget"
  | nameSpace => "Namespace"
  | node => "Node"
  | event => "Event"
  | priorityClass => "PriorityClass"
  | runtimeClass => "RuntimeClass"
  | csiDriver => "CSIDriver"

/-- All known kinds. -/
def all : List Kind :=
  [pod, deployment, replicaSet, statefulSet, daemonSet, job, cronJob, service, ingress,
    ingressClass, networkPolicy, endpointSlice, configMap, secret, persistentVolumeClaim,
    persistentVolume, storageClass, serviceAccount, role, roleBinding, clusterRole,
    clusterRoleBinding, validatingWebhookConfiguration, mutatingWebhookConfiguration, apiService,
    horizontalPodAutoscaler, podDisruptionBudget, nameSpace, node, event, priorityClass,
    runtimeClass, csiDriver]

/-- The list of all kinds leaves none out. -/
theorem mem_all (k : Kind) : k ∈ all := by
  cases k <;> decide

/-- Whether resources of the kind are only ever pointed at, so that nothing is known of what they
declare themselves. -/
def isTargetOnly : Kind → Bool
  | priorityClass | runtimeClass | csiDriver => true
  | _ => false

/-- The kind that a text names, in any letter case. -/
def ofName? (text : Text) : Option Kind :=
  let wanted := Text.lower text
  all.find? fun k => Text.lower k.name == wanted

/-- The kind that a text names, if resources of the kind declare anything. -/
def declaring? (text : Text) : Option Kind :=
  (ofName? text).filter (!·.isTargetOnly)

/-- The canonical spelling of a kind; an unknown kind keeps its own. -/
def canonical (text : Text) : Text :=
  match ofName? text with
  | some k => k.name
  | none => text

/-- The label under which a kind is counted; all unknown kinds share one. -/
def countLabel (text : Text) : Text :=
  match ofName? text with
  | some k => k.name
  | none => "other"

end Kind

end ClusterLineage
