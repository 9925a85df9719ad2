import ClusterLineage.Declared.Field

/-!
# References of a pod specification

Pods and everything that holds a template of pods declare the same references in a pod
specification.  Those to namespaced resources stay in the namespace of the holder.
-/

namespace ClusterLineage.PodSpec

/-- The fields that list containers. -/
def containerFields : List Text :=
  ["containers", "initContainers", "ephemeralContainers"]

/-- What one variable of a container takes its value from. -/
def variableRefs (ns : Option Text) (entry : Json) : List Ref :=
  found [
    Ref.ofKind? .configMap (entry.path ["valueFrom", "configMapKeyRef", "name"]) ns,
    Ref.ofKind? .secret (entry.path ["valueFrom", "secretKeyRef", "name"]) ns]

/-- What a container takes a whole set of variables from. -/
def variableSourceRefs (ns : Option Text) (source : Json) : List Ref :=
  found [
    Ref.ofKind? .configMap (source.path ["configMapRef", "name"]) ns,
    Ref.ofKind? .secret (source.path ["secretRef", "name"]) ns]

/-- The references of a container. -/
def containerRefs (ns : Option Text) (container : Json) : List Ref :=
  (container.get "env").objects.flatMap (variableRefs ns) ++
    (container.get "envFrom").objects.flatMap (variableSourceRefs ns)

/-- What one source of a projected volume shows. -/
def projectionRefs (ns : Option Text) (source : Json) : List Ref :=
  found [
    Ref.ofKind? .configMap (source.path ["configMap", "name"]) ns,
    Ref.ofKind? .secret (source.path ["secret", "name"]) ns]

/-- The references of a volume. -/
def volumeRefs (ns : Option Text) (volume : Json) : List Ref :=
  found [
    Ref.ofKind? .configMap (volume.path ["configMap", "name"]) ns,
    Ref.ofKind? .secret (volume.path ["secret", "secretName"]) ns,
    Ref.ofKind? .persistentVolumeClaim (volume.path ["persistentVolumeClaim", "claimName"]) ns,
    Ref.ofKind? .csiDriver (volume.path ["csi", "driver"]) none,
    Ref.ofKind? .secret (volume.path ["csi", "nodePublishSecretRef", "name"]) ns] ++
  (volume.path ["projected", "sources"]).objects.flatMap (projectionRefs ns)

/-- The references of a pod specification: its service account, its volumes, its containers, and
the secrets for pulling images. -/
def refs (ns : Option Text) (spec : Json) : List Ref :=
  found [Ref.ofKind? .serviceAccount (spec.get "serviceAccountName") ns] ++
  (spec.get "volumes").objects.flatMap (volumeRefs ns) ++
  containerFields.flatMap (fun field => (spec.get field).objects.flatMap (containerRefs ns)) ++
  found ((spec.get "imagePullSecrets").objects.map fun secret =>
    Ref.ofKind? .secret (secret.get "name") ns)

end ClusterLineage.PodSpec
