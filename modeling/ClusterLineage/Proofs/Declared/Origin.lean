import ClusterLineage.Declared.Refs
import ClusterLineage.Proofs.Json.Fields

/-!
# Where references come from

Every reference that a raw object declares is made of texts that stand in its fields, and of the
name of a known kind where the field does not name one.  What keeps to its own namespace refers to
others in that namespace, or to a few kinds of resources that have none.
-/

namespace ClusterLineage

variable {raw j : Json} {ns : Option Text} {r : Ref}

theorem forall_mem_found {P : Ref → Prop} {refs : List (Option Ref)} :
    (∀ r ∈ found refs, P r) ↔ ∀ ref ∈ refs, ∀ r ∈ ref, P r := by
  constructor
  · intro h ref href r hr
    exact h r (List.mem_filterMap.mpr ⟨ref, href, hr⟩)
  · intro h r hr
    obtain ⟨ref, href, hsome⟩ := List.mem_filterMap.mp hr
    exact h ref href r hsome

theorem Json.holds_ns? (raw : Json) : ∀ t ∈ raw.ns?, raw.Holds t := by
  have hraw : raw.Reaches raw := .self
  exact holds_orElse (hraw.path _).holds (holds_orElse (hraw.get _).holds (hraw.get _).holds)

/-- The kinds of resources without a namespace that a pod, or what makes pods, can name. -/
def Kind.clusterWide : List Kind :=
  [.node, .priorityClass, .runtimeClass, .csiDriver, .ingressClass]

namespace Ref

/-- A reference is read from a raw object: its parts are texts that fields of the object lead to,
and its kind may be a known one instead. -/
structure ReadFrom (raw : Json) (r : Ref) : Prop where
  kind : (∃ k : Kind, r.kind = k.name) ∨ raw.Holds r.kind
  name : raw.Holds r.name
  ns : ∀ t ∈ r.ns, raw.Holds t
  apiVersion : ∀ t ∈ r.apiVersion, raw.Holds t
  uid : ∀ t ∈ r.uid, raw.Holds t

/-- A reference in some namespace, or to a resource without one, that is read from a raw object. -/
inductive ReadBeside (raw : Json) (ns : Option Text) (r : Ref) : Prop where
  | inside {k : Kind} {name : Json} (hname : raw.Reaches name) (h : r ∈ ofKind? k name ns)
  | clusterWide {k : Kind} {name : Json} (hk : k ∈ Kind.clusterWide) (hname : raw.Reaches name)
      (h : r ∈ ofKind? k name none)
  | ofField {kind name apiVersion : Json} (hkind : raw.Reaches kind) (hname : raw.Reaches name)
      (hversion : raw.Reaches apiVersion) (h : r ∈ ofKindField? kind name ns apiVersion)

variable {kind : Text} {name apiVersion object : Json}

theorem readFrom_of_mem_named?
    (hkind : (∃ k : Kind, kind = k.name) ∨ raw.Holds kind)
    (hname : raw.Reaches name)
    (hns : ∀ t ∈ ns, raw.Holds t)
    (hversion : ∀ t ∈ apiVersion.text?, raw.Holds t)
    (hr : r ∈ named? kind name ns apiVersion) :
    r.ReadFrom raw := by
  obtain ⟨text, htext, rfl⟩ := Option.map_eq_some_iff.mp hr
  exact ⟨hkind, hname.holds text htext, hns, hversion, by simp⟩

theorem readFrom_of_mem_ofKind?
    {k : Kind}
    (hname : raw.Reaches name)
    (hns : ∀ t ∈ ns, raw.Holds t)
    (hr : r ∈ ofKind? k name ns) :
    r.ReadFrom raw :=
  readFrom_of_mem_named? (.inl ⟨k, rfl⟩) hname hns (by simp [Json.text?]) hr

theorem readFrom_of_mem_ofKindField?
    {kind : Json}
    (hkind : raw.Reaches kind)
    (hname : raw.Reaches name)
    (hns : ∀ t ∈ ns, raw.Holds t)
    (hversion : raw.Reaches apiVersion)
    (hr : r ∈ ofKindField? kind name ns apiVersion) :
    r.ReadFrom raw := by
  obtain ⟨text, htext, hr⟩ := Option.bind_eq_some_iff.mp hr
  exact readFrom_of_mem_named? (.inr (hkind.holds text htext)) hname hns hversion.holds hr

theorem readFrom_of_mem_ofObject?
    {defaultKind : Option Text}
    (hobject : raw.Reaches object)
    (hdefault : ∀ t ∈ defaultKind, ∃ k : Kind, t = k.name)
    (hr : r ∈ ofObject? object defaultKind) :
    r.ReadFrom raw := by
  obtain ⟨kind, hkind, hr⟩ := Option.bind_eq_some_iff.mp hr
  obtain ⟨name, hname, hr⟩ := Option.bind_eq_some_iff.mp hr
  obtain rfl := Option.some.inj hr
  refine ⟨?_, (hobject.get _).holds name hname, (hobject.get _).holds, (hobject.get _).holds,
    (hobject.get _).holds⟩
  cases hfield : (object.get "kind").text? with
  | none =>
    rw [hfield] at hkind
    exact .inl (hdefault kind hkind)
  | some text =>
    rw [hfield] at hkind
    obtain rfl : text = kind := Option.some.inj hkind
    exact .inr ((hobject.get _).holds text hfield)

theorem ReadBeside.readFrom
    (h : r.ReadBeside raw ns)
    (hns : ∀ t ∈ ns, raw.Holds t) :
    r.ReadFrom raw := by
  cases h with
  | inside hname h => exact readFrom_of_mem_ofKind? hname hns h
  | clusterWide _ hname h => exact readFrom_of_mem_ofKind? hname (by simp) h
  | ofField hkind hname hversion h => exact readFrom_of_mem_ofKindField? hkind hname hns hversion h

theorem ReadBeside.ns_cases (h : r.ReadBeside raw ns) :
    r.ns = ns ∨ r.ns = none ∧ ∃ k ∈ Kind.clusterWide, r.kind = k.name := by
  cases h with
  | inside _ h =>
    obtain ⟨text, -, rfl⟩ := Option.map_eq_some_iff.mp h
    exact .inl rfl
  | @clusterWide k _ hk _ h =>
    obtain ⟨text, -, rfl⟩ := Option.map_eq_some_iff.mp h
    exact .inr ⟨rfl, k, hk, rfl⟩
  | ofField _ _ _ h =>
    obtain ⟨kind, -, h⟩ := Option.bind_eq_some_iff.mp h
    obtain ⟨text, -, rfl⟩ := Option.map_eq_some_iff.mp h
    exact .inl rfl

end Ref

theorem forall_mem_found_map
    {P : Ref → Prop} {xs : List Json} {f : Json → Option Ref}
    (h : ∀ x ∈ xs, ∀ r ∈ f x, P r) :
    ∀ r ∈ found (xs.map f), P r :=
  forall_mem_found.mpr (List.forall_mem_map.mpr h)

theorem forall_mem_found_one
    {P : Ref → Prop} {ref : Option Ref}
    (h : ∀ r ∈ ref, P r) :
    ∀ r ∈ found [ref], P r :=
  forall_mem_found.mpr (List.forall_mem_singleton.mpr h)

theorem forall_mem_found_two
    {P : Ref → Prop} {ref other : Option Ref}
    (h : ∀ r ∈ ref, P r)
    (hother : ∀ r ∈ other, P r) :
    ∀ r ∈ found [ref, other], P r :=
  forall_mem_found.mpr (List.forall_mem_cons.mpr ⟨h, List.forall_mem_singleton.mpr hother⟩)

/-! ## References in one namespace -/

namespace PodSpec

theorem readBeside_variableRefs (h : raw.Reaches j) :
    ∀ r ∈ variableRefs ns j, r.ReadBeside raw ns :=
  forall_mem_found_two (fun _ => .inside (h.path _)) (fun _ => .inside (h.path _))

theorem readBeside_variableSourceRefs (h : raw.Reaches j) :
    ∀ r ∈ variableSourceRefs ns j, r.ReadBeside raw ns :=
  forall_mem_found_two (fun _ => .inside (h.path _)) (fun _ => .inside (h.path _))

theorem readBeside_containerRefs (h : raw.Reaches j) :
    ∀ r ∈ containerRefs ns j, r.ReadBeside raw ns := by
  refine List.forall_mem_append.mpr ⟨?_, ?_⟩
  · exact List.forall_mem_flatMap.mpr fun _ hx => readBeside_variableRefs ((h.get _).object hx)
  · exact List.forall_mem_flatMap.mpr fun _ hx =>
      readBeside_variableSourceRefs ((h.get _).object hx)

theorem readBeside_projectionRefs (h : raw.Reaches j) :
    ∀ r ∈ projectionRefs ns j, r.ReadBeside raw ns :=
  forall_mem_found_two (fun _ => .inside (h.path _)) (fun _ => .inside (h.path _))

theorem readBeside_volumeRefs (h : raw.Reaches j) :
    ∀ r ∈ volumeRefs ns j, r.ReadBeside raw ns := by
  refine List.forall_mem_append.mpr ⟨forall_mem_found.mpr ?_, ?_⟩
  · simp only [List.forall_mem_cons]
    exact ⟨fun _ => .inside (h.path _), fun _ => .inside (h.path _), fun _ => .inside (h.path _),
      fun _ => .clusterWide (by decide) (h.path _), fun _ => .inside (h.path _), by simp⟩
  · exact List.forall_mem_flatMap.mpr fun _ hx => readBeside_projectionRefs ((h.path _).object hx)

theorem readBeside_refs (h : raw.Reaches j) : ∀ r ∈ refs ns j, r.ReadBeside raw ns := by
  refine List.forall_mem_append.mpr ⟨List.forall_mem_append.mpr
    ⟨List.forall_mem_append.mpr ⟨?_, ?_⟩, ?_⟩, ?_⟩
  · exact forall_mem_found_one fun _ => .inside (h.get _)
  · exact List.forall_mem_flatMap.mpr fun _ hx => readBeside_volumeRefs ((h.get _).object hx)
  · exact List.forall_mem_flatMap.mpr fun _ _ => List.forall_mem_flatMap.mpr fun _ hx =>
      readBeside_containerRefs ((h.get _).object hx)
  · exact forall_mem_found_map fun _ hx _ => .inside (((h.get _).object hx).get _)

end PodSpec

namespace Workload

theorem readBeside_podRefs (raw : Json) : ∀ r ∈ podRefs raw, r.ReadBeside raw raw.ns? := by
  have hspec : raw.Reaches (raw.get "spec") := .get .self _
  refine List.forall_mem_append.mpr ⟨forall_mem_found.mpr ?_, PodSpec.readBeside_refs hspec⟩
  simp only [List.forall_mem_cons]
  exact ⟨fun _ => .clusterWide (by decide) (hspec.get _),
    fun _ => .clusterWide (by decide) (hspec.get _),
    fun _ => .clusterWide (by decide) (hspec.get _), by simp⟩

theorem readBeside_templateRefs (raw : Json) :
    ∀ r ∈ templateRefs raw, r.ReadBeside raw raw.ns? :=
  PodSpec.readBeside_refs (Json.Reaches.self.path _)

theorem readBeside_jobTemplateRefs (raw : Json) :
    ∀ r ∈ jobTemplateRefs raw, r.ReadBeside raw raw.ns? :=
  PodSpec.readBeside_refs (Json.Reaches.self.path _)

theorem readBeside_statefulRefs (raw : Json) :
    ∀ r ∈ statefulRefs raw, r.ReadBeside raw raw.ns? := by
  have hspec : raw.Reaches (raw.get "spec") := .get .self _
  refine List.forall_mem_append.mpr ⟨List.forall_mem_append.mpr ⟨?_, ?_⟩, ?_⟩
  · exact forall_mem_found_map fun _ hx _ => .inside (((hspec.get _).object hx).path _)
  · exact forall_mem_found_one fun _ => .inside (hspec.get _)
  · exact PodSpec.readBeside_refs (hspec.path _)

theorem readBeside_scaleTargetRefs (raw : Json) :
    ∀ r ∈ scaleTargetRefs raw, r.ReadBeside raw raw.ns? := by
  have htarget : raw.Reaches (raw.path ["spec", "scaleTargetRef"]) := Json.Reaches.self.path _
  exact forall_mem_found_one fun _ => .ofField (htarget.get _) (htarget.get _) (htarget.get _)

end Workload

namespace Traffic

theorem readBeside_backendRefs (h : raw.Reaches j) :
    ∀ r ∈ backendRefs ns j, r.ReadBeside raw ns := by
  have hresource : raw.Reaches (j.get "resource") := h.get _
  exact forall_mem_found_two (fun _ => .inside (h.path _))
    (fun _ => .ofField (hresource.get _) (hresource.get _) (hresource.get _))

theorem readBeside_ruleRefs (h : raw.Reaches j) : ∀ r ∈ ruleRefs ns j, r.ReadBeside raw ns :=
  List.forall_mem_flatMap.mpr fun _ hx => readBeside_backendRefs (((h.path _).object hx).get _)

theorem readBeside_ingressRefs (raw : Json) :
    ∀ r ∈ ingressRefs raw, r.ReadBeside raw raw.ns? := by
  have hspec : raw.Reaches (raw.get "spec") := .get .self _
  refine List.forall_mem_append.mpr ⟨List.forall_mem_append.mpr
    ⟨List.forall_mem_append.mpr ⟨?_, ?_⟩, ?_⟩, ?_⟩
  · exact forall_mem_found_one fun _ => .clusterWide (by decide) (hspec.get _)
  · exact readBeside_backendRefs (hspec.get _)
  · exact List.forall_mem_flatMap.mpr fun _ hx => readBeside_ruleRefs ((hspec.get _).object hx)
  · exact forall_mem_found_map fun _ hx _ => .inside (((hspec.get _).object hx).get _)

end Traffic

theorem Access.readBeside_serviceAccountRefs (raw : Json) :
    ∀ r ∈ serviceAccountRefs raw, r.ReadBeside raw raw.ns? := by
  have hsecrets (field : Text) : ∀ r ∈ found ((raw.get field).objects.map fun secret =>
      Ref.ofKind? .secret (secret.get "name") raw.ns?), r.ReadBeside raw raw.ns? :=
    forall_mem_found_map fun _ hx _ => .inside (((Json.Reaches.self.get _).object hx).get _)
  exact List.forall_mem_append.mpr ⟨hsecrets "secrets", hsecrets "imagePullSecrets"⟩

/-- The kinds of resources that refer to others in their own namespace. -/
def Kind.inOwnNamespace : List Kind :=
  [.pod, .deployment, .replicaSet, .daemonSet, .job, .cronJob, .statefulSet, .serviceAccount,
    .horizontalPodAutoscaler, .ingress]

/-- What such a resource refers to is in its namespace or has none. -/
theorem Kind.readBeside_declaredRefs
    {k : Kind}
    (hk : k ∈ inOwnNamespace)
    (raw : Json) :
    ∀ r ∈ k.declaredRefs raw, r.ReadBeside raw raw.ns? := by
  cases k with
  | pod => exact Workload.readBeside_podRefs raw
  | deployment | replicaSet | daemonSet | job => exact Workload.readBeside_templateRefs raw
  | cronJob => exact Workload.readBeside_jobTemplateRefs raw
  | statefulSet => exact Workload.readBeside_statefulRefs raw
  | serviceAccount => exact Access.readBeside_serviceAccountRefs raw
  | horizontalPodAutoscaler => exact Workload.readBeside_scaleTargetRefs raw
  | ingress => exact Traffic.readBeside_ingressRefs raw
  | _ => exact absurd hk (by decide)

/-! ## References in other namespaces -/

namespace Traffic

theorem readFrom_ingressClassRefs (raw : Json) : ∀ r ∈ ingressClassRefs raw, r.ReadFrom raw := by
  have hparameters : raw.Reaches (raw.path ["spec", "parameters"]) := Json.Reaches.self.path _
  exact forall_mem_found_one fun _ => Ref.readFrom_of_mem_ofKindField? (hparameters.get _)
    (hparameters.get _) (hparameters.get _).holds (hparameters.get _)

theorem readFrom_serviceRef? (h : raw.Reaches j) : ∀ r ∈ serviceRef? j, r.ReadFrom raw :=
  fun _ => Ref.readFrom_of_mem_ofKind? (h.get _) (h.get _).holds

theorem readFrom_webhookRefs (raw : Json) : ∀ r ∈ webhookRefs raw, r.ReadFrom raw :=
  forall_mem_found_map fun _ hx =>
    readFrom_serviceRef? (((Json.Reaches.self.get _).object hx).path _)

theorem readFrom_apiServiceRefs (raw : Json) : ∀ r ∈ apiServiceRefs raw, r.ReadFrom raw :=
  forall_mem_found_one (readFrom_serviceRef? (Json.Reaches.self.path _))

end Traffic

namespace Access

theorem readFrom_subjectRefs (hns : ∀ t ∈ ns, raw.Holds t) :
    ∀ r ∈ subjectRefs ns raw, r.ReadFrom raw := by
  apply forall_mem_found_map
  intro subject hsubject r hr
  have hfields : raw.Reaches subject := .object (.get .self _) hsubject
  rw [subjectRef?, Option.mem_def, Option.ite_none_right_eq_some] at hr
  exact Ref.readFrom_of_mem_ofKind? (hfields.get _) (Json.holds_orElse (hfields.get _).holds hns)
    hr.2

theorem readFrom_roleBindingRefs (raw : Json) : ∀ r ∈ roleBindingRefs raw, r.ReadFrom raw := by
  have hrole : raw.Reaches (raw.get "roleRef") := .get .self _
  refine List.forall_mem_append.mpr
    ⟨forall_mem_found_one fun r hr => ?_, readFrom_subjectRefs raw.holds_ns?⟩
  refine Ref.readFrom_of_mem_ofKindField? (hrole.get _) (hrole.get _) ?_ (hrole.get _) hr
  split
  · exact raw.holds_ns?
  · simp

theorem readFrom_clusterRoleBindingRefs (raw : Json) :
    ∀ r ∈ clusterRoleBindingRefs raw, r.ReadFrom raw := by
  have hrole : raw.Reaches (raw.get "roleRef") := .get .self _
  refine List.forall_mem_append.mpr
    ⟨forall_mem_found_one fun r hr => ?_, readFrom_subjectRefs (by simp)⟩
  rw [Option.mem_def, Option.ite_none_right_eq_some] at hr
  exact Ref.readFrom_of_mem_named? (.inl ⟨_, rfl⟩) (hrole.get _) (by simp) (hrole.get _).holds hr.2

end Access

namespace Storage

theorem readFrom_claimRefs (raw : Json) : ∀ r ∈ claimRefs raw, r.ReadFrom raw :=
  forall_mem_found_two
    (fun _ => Ref.readFrom_of_mem_ofKind? (Json.Reaches.self.path _) (by simp))
    (fun _ => Ref.readFrom_of_mem_ofKind? (Json.Reaches.self.path _) (by simp))

theorem readFrom_volumeRefs (raw : Json) : ∀ r ∈ volumeRefs raw, r.ReadFrom raw := by
  refine forall_mem_found_two
    (fun _ => Ref.readFrom_of_mem_ofObject? (Json.Reaches.self.path _) ?_)
    (fun _ => Ref.readFrom_of_mem_ofKind? (Json.Reaches.self.path _) (by simp))
  rintro _ ⟨⟩
  exact ⟨_, rfl⟩

end Storage

theorem readFrom_eventRefs (raw : Json) : ∀ r ∈ eventRefs raw, r.ReadFrom raw :=
  forall_mem_found_two
    (fun _ => Ref.readFrom_of_mem_ofObject? (Json.Reaches.self.get _) (by simp))
    (fun _ => Ref.readFrom_of_mem_ofObject? (Json.Reaches.self.get _) (by simp))

theorem Kind.readFrom_declaredRefs (k : Kind) (raw : Json) :
    ∀ r ∈ k.declaredRefs raw, r.ReadFrom raw := by
  by_cases hk : k ∈ inOwnNamespace
  · intro r hr
    exact (readBeside_declaredRefs hk raw r hr).readFrom raw.holds_ns?
  · cases k with
    | ingressClass => exact Traffic.readFrom_ingressClassRefs raw
    | validatingWebhookConfiguration | mutatingWebhookConfiguration =>
      exact Traffic.readFrom_webhookRefs raw
    | apiService => exact Traffic.readFrom_apiServiceRefs raw
    | roleBinding => exact Access.readFrom_roleBindingRefs raw
    | clusterRoleBinding => exact Access.readFrom_clusterRoleBindingRefs raw
    | persistentVolumeClaim => exact Storage.readFrom_claimRefs raw
    | persistentVolume => exact Storage.readFrom_volumeRefs raw
    | event => exact readFrom_eventRefs raw
    | pod | deployment | replicaSet | daemonSet | job | cronJob | statefulSet | serviceAccount
    | horizontalPodAutoscaler | ingress => exact absurd (by decide) hk
    | _ => exact List.forall_mem_nil _

/-- Every reference that a raw object declares is read from it. -/
theorem readFrom_declaredRefs (kind : Text) (raw : Json) :
    ∀ r ∈ declaredRefs kind raw, r.ReadFrom raw := by
  unfold declaredRefs
  split
  · next k _ => exact k.readFrom_declaredRefs raw
  · exact List.forall_mem_nil _

end ClusterLineage
