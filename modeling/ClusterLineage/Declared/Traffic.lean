import ClusterLineage.Declared.Field

/-!
# References of what routes traffic

Ingresses and their classes, and the services that answer for webhooks and aggregated interfaces.
Services, network policies and endpoint slices declare nothing by name.
-/

namespace ClusterLineage.Traffic

/-- What a backend of an ingress leads to: a service, or a resource of any kind. -/
def backendRefs (ns : Option Text) (backend : Json) : List Ref :=
  let resource := backend.get "resource"
  found [
    Ref.ofKind? .service (backend.path ["service", "name"]) ns,
    Ref.ofKindField? (resource.get "kind") (resource.get "name") ns (resource.get "apiGroup")]

/-- What the paths of a rule of an ingress lead to. -/
def ruleRefs (ns : Option Text) (rule : Json) : List Ref :=
  (rule.path ["http", "paths"]).objects.flatMap fun path => backendRefs ns (path.get "backend")

/-- The references of an ingress: its class, its backends, and the secrets of its hosts. -/
def ingressRefs (raw : Json) : List Ref :=
  let spec := raw.get "spec"
  let ns := raw.ns?
  found [Ref.ofKind? .ingressClass (spec.get "ingressClassName") none] ++
  backendRefs ns (spec.get "defaultBackend") ++
  (spec.get "rules").objects.flatMap (ruleRefs ns) ++
  found ((spec.get "tls").objects.map fun tls => Ref.ofKind? .secret (tls.get "secretName") ns)

/-- The parameters of an ingress class, a resource of any kind. -/
def ingressClassRefs (raw : Json) : List Ref :=
  let parameters := raw.path ["spec", "parameters"]
  found [Ref.ofKindField? (parameters.get "kind") (parameters.get "name")
    (parameters.get "namespace").text? (parameters.get "apiGroup")]

/-- A service that is given with its namespace. -/
def serviceRef? (service : Json) : Option Ref :=
  Ref.ofKind? .service (service.get "name") (service.get "namespace").text?

/-- The services that answer for the webhooks of a configuration. -/
def webhookRefs (raw : Json) : List Ref :=
  found ((raw.get "webhooks").objects.map fun webhook =>
    serviceRef? (webhook.path ["clientConfig", "service"]))

/-- The service that answers for an aggregated interface. -/
def apiServiceRefs (raw : Json) : List Ref :=
  found [serviceRef? (raw.path ["spec", "service"])]

end ClusterLineage.Traffic
