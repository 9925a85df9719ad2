import ClusterLineage.Declared.PodSpec

/-!
# References of workloads

Pods, what makes pods from a template, and what scales it.
-/

namespace ClusterLineage.Workload

/-- The references of a pod: where and as what it runs, and those of its specification. -/
def podRefs (raw : Json) : List Ref :=
  let spec := raw.get "spec"
  found [
    Ref.ofKind? .node (spec.get "nodeName") none,
    Ref.ofKind? .priorityClass (spec.get "priorityClassName") none,
    Ref.ofKind? .runtimeClass (spec.get "runtimeClassName") none] ++
  PodSpec.refs raw.ns? spec

/-- The references of a workload with a template of pods. -/
def templateRefs (raw : Json) : List Ref :=
  PodSpec.refs raw.ns? (raw.path ["spec", "template", "spec"])

/-- The references of a workload with a template of jobs. -/
def jobTemplateRefs (raw : Json) : List Ref :=
  PodSpec.refs raw.ns? (raw.path ["spec", "jobTemplate", "spec", "template", "spec"])

/-- The references of a workload whose pods have claims and a service of their own. -/
def statefulRefs (raw : Json) : List Ref :=
  let spec := raw.get "spec"
  let ns := raw.ns?
  found ((spec.get "volumeClaimTemplates").objects.map fun template =>
    Ref.ofKind? .persistentVolumeClaim (template.path ["metadata", "name"]) ns) ++
  found [Ref.ofKind? .service (spec.get "serviceName") ns] ++
  PodSpec.refs ns (spec.path ["template", "spec"])

/-- What an autoscaler scales. -/
def scaleTargetRefs (raw : Json) : List Ref :=
  let target := raw.path ["spec", "scaleTargetRef"]
  found [Ref.ofKindField? (target.get "kind") (target.get "name") raw.ns?
    (target.get "apiVersion")]

end ClusterLineage.Workload
