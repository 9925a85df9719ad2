import ClusterLineage.Text.Basic

/-!
# Well-known system objects

Objects that distributions of a cluster create and that have good reasons to have no consumers
inside it.  They are recognised by name and namespace, in exact spelling.
-/

namespace ClusterLineage.Orphan

/-- Whether a text starts with another. -/
def startsWith (start text : Text) : Bool :=
  start.codes.isPrefixOf text.codes

/-- Whether a text ends with another. -/
def endsWith (ending text : Text) : Bool :=
  ending.codes.isSuffixOf text.codes

/-- Whether a name is one of some others. -/
def isOneOf (name : Text) (names : List Text) : Bool :=
  names.contains name

/-- A pattern over a name and a namespace: any of its five lists can match. -/
structure NamePattern where
  /-- Names, in any namespace or none. -/
  exactNames : List Text := []
  /-- What names start with, in any namespace or none. -/
  nameStarts : List Text := []
  /-- What names end with, in any namespace or none. -/
  nameEnds : List Text := []
  /-- What namespaces start with, whatever the name. -/
  namespaceStarts : List Text := []
  /-- The names that match within one namespace. -/
  namesIn : List (Text × List Text) := []
  deriving DecidableEq, Repr

/-- Whether a pattern matches a name and a namespace. -/
def NamePattern.covers (p : NamePattern) (name : Text) (ns : Option Text) : Bool :=
  isOneOf name p.exactNames ||
  p.nameStarts.any (startsWith · name) ||
  p.nameEnds.any (endsWith · name) ||
  match Text.proper? ns with
  | none => false
  | some ns =>
    p.namespaceStarts.any (startsWith · ns) ||
      isOneOf name ((p.namesIn.lookup ns).getD [])

/-- The roles for the whole cluster that distributions ship. -/
def clusterRoles : NamePattern where
  exactNames := Text.ofStrings [
    "admin", "alert-routing-edit", "cloud-provider", "cluster-admin", "cluster-debugger", "edit",
    "eks:extension-metrics-apiserver", "global-operators-admin", "global-operators-edit",
    "global-operators-view", "monitoring-edit", "monitoring-rules-edit", "monitoring-rules-view",
    "olm-operators-admin", "olm-operators-edit", "olm-operators-view",
    "openshift-cluster-monitoring-admin", "openshift-cluster-monitoring-edit",
    "openshift-cluster-monitoring-view", "openshift-csi-main-attacher-role",
    "openshift-csi-main-provisioner-role", "openshift-csi-main-resizer-role",
    "openshift-csi-main-snapshotter-role",
    "openshift-csi-provisioner-configmap-and-secret-reader-role",
    "openshift-csi-provisioner-volumeattachment-reader-role",
    "openshift-csi-provisioner-volumesnapshot-reader-role",
    "openshift-csi-resizer-infrastructure-reader-role",
    "openshift-csi-resizer-storageclass-reader-role", "resource-metrics-server-resources",
    "storage-admin", "sudoer", "system:aggregate-to-admin", "system:aggregate-to-edit",
    "system:aggregate-to-view", "system:aggregated-metrics-reader", "system:auth-delegator",
    "system:build-strategy-custom",
    "system:certificates.k8s.io:certificatesigningrequests:nodeclient",
    "system:certificates.k8s.io:certificatesigningrequests:selfnodeclient",
    "system:certificates.k8s.io:kube-apiserver-client-approver",
    "system:certificates.k8s.io:kube-apiserver-client-kubelet-approver",
    "system:certificates.k8s.io:kubelet-serving-approver",
    "system:certificates.k8s.io:legacy-unknown-approver",
    "system:controller:cloud-node-controller", "system:controller:glbc", "system:heapster",
    "system:image-auditor", "system:image-pusher", "system:image-signer", "system:kube-aggregator",
    "system:kubelet-api-admin", "system:metrics-server-aggregated-reader", "system:node",
    "system:node-bootstrapper", "system:node-problem-detector", "system:node-reader",
    "system:openshift:aggregate-snapshots-to-storage-admin",
    "system:openshift:aggregate-to-storage-admin", "system:openshift:scc:hostaccess",
    "system:openshift:scc:hostmount", "system:openshift:scc:hostnetwork",
    "system:openshift:scc:nonroot", "system:openshift:scc:nonroot-v2",
    "system:openshift:scc:privileged", "system:openshift:scc:restricted",
    "system:openshift:templateservicebroker-client", "system:persistent-volume-provisioner",
    "system:router", "system:sdn-manager", "view"]

/-- The bindings for the whole cluster that distributions ship. -/
def clusterRoleBindings : NamePattern where
  exactNames := [
    "event-exporter-rb", "kubeadm:kubelet-bootstrap", "kubeadm:node-autoapprove-bootstrap",
    "kubeadm:node-autoapprove-certificate-rotation", "kubelet-bootstrap",
    "kubelet-bootstrap-node-bootstrapper", "kubelet-cluster-admin",
    "kubelet-nodepool-bootstrapper", "kubelet-user-npd-binding",
    "metrics-server-nanny:system:auth-delegator", "metrics-server:system:auth-delegator",
    "npd-binding", "system:controller:horizontal-pod-autoscaler",
    "system:controller:route-controller", "system:controller:selinux-warning-controller",
    "system:konnectivity-server", "system:kube-dns", "system:node"]

/-- The configuration that distributions and control planes keep. -/
def configMaps : NamePattern where
  exactNames := ["kube-root-ca.crt", "openshift-service-ca.crt"]
  namespaceStarts := ["openshift-"]
  namesIn := [
    ("kube-system", [
      "amazon-vpc-cni", "aws-auth", "bootstrap", "cluster-autoscaler-status", "cluster-config-v1",
      "cluster-dns", "cluster-kubestore", "clustermetrics", "coredns-autoscaler",
      "efficiency-daemon-config", "extension-apiserver-authentication",
      "gke-common-webhook-heartbeat", "ingress-uid", "konnectivity-agent-autoscaler-config",
      "kube-apiserver-legacy-service-account-token-tracking", "kube-dns-autoscaler", "kube-proxy",
      "kube-proxy-config", "kubeadm-config", "kubedns-config-images", "kubelet-config",
      "metrics-agent-linux-config-images", "metrics-agent-windows-config-images",
      "nvidia-metrics-collector-config-map", "overlay-upgrade-data", "root-ca"]),
    ("kube-public", ["cluster-info"]),
    ("gmp-system", ["config-images", "rule-evaluator", "rules-generated", "webhook-ca"]),
    ("kubernetes-dashboard", ["kubernetes-dashboard-settings"]),
    ("gke-managed-system", ["dcgm-exporter-metrics"])]

/-- The secrets of nodes, distributions and dashboards. -/
def secrets : NamePattern where
  nameStarts := ["bootstrap-token-"]
  nameEnds := [".node-password.k3s"]
  namespaceStarts := ["openshift-"]
  namesIn := [
    ("kube-system", ["k3s-serving", "kube-cloud-cfg", "kubeadmin"]),
    ("kubernetes-dashboard", [
      "kubernetes-dashboard-certs", "kubernetes-dashboard-csrf",
      "kubernetes-dashboard-key-holder"]),
    ("gmp-system", ["alertmanager", "rules", "webhook-tls"])]

/-- The account that every namespace has. -/
def serviceAccounts : NamePattern where
  exactNames := ["default"]

/-- The service of the control plane itself. -/
def services : NamePattern where
  namesIn := [
    ("default", ["kubernetes"])]

/-- The policies that managed control planes ship. -/
def platformPolicies : NamePattern where
  namespaceStarts := ["openshift-", "gke-managed-", "gmp-"]
  namesIn := [
    ("kube-system", ["coredns-pdb", "konnectivity-agent", "kube-dns", "metrics-server"])]

/-- Whether a namespace is a certain one. -/
def isIn (wanted : Text) (ns : Option Text) : Bool :=
  ns == some wanted

/-- Whether a binding is one that the control plane or its installer makes in its own
namespaces. -/
def isSystemRoleBinding (name : Text) (ns : Option Text) : Bool :=
  (isIn "kube-system" ns &&
    (startsWith "system::" name || startsWith "system:controller:" name ||
      isOneOf name ["kube-proxy", "kubeadm:kubelet-config", "kubeadm:nodes-kubeadm-config",
        "gce:podsecuritypolicy:pdcsi-node-sa"])) ||
  (isIn "kube-public" ns &&
    isOneOf name ["kubeadm:bootstrap-signer-clusterinfo",
      "system:controller:bootstrap-signer"]) ||
  (isIn "gmp-public" ns && name == "operator")

/-- Whether a role is one that the control plane makes in its own namespaces. -/
def isSystemRole (name : Text) (ns : Option Text) : Bool :=
  (isIn "kube-system" ns || isIn "kube-public" ns) &&
    (startsWith "system:" name || startsWith "kubeadm:" name ||
      name == "extension-apiserver-authentication-reader")

/-- What exempts resources of a kind from being orphans. -/
inductive Exemption where
  | pattern (p : NamePattern)
  | systemRoles
  | systemRoleBindings
  deriving DecidableEq, Repr

/-- Whether an exemption covers a name and a namespace. -/
def Exemption.covers : Exemption → Text → Option Text → Bool
  | pattern p => p.covers
  | systemRoles => isSystemRole
  | systemRoleBindings => isSystemRoleBinding

end ClusterLineage.Orphan
