import ClusterLineage.Proofs.Declared.Origin
import ClusterLineage.Proofs.Json.Broken

/-!
# References of a broken object

What a raw object with a broken part refers to by name is what the whole object referred to, less
some of it, in the same order.  A kind, a namespace or a version that is broken can change what a
reference leads to, but lets no other reference in.
-/

namespace ClusterLineage

variable {raw raw' j j' kind kind' name name' apiVersion apiVersion' : Json} {ns ns' : Option Text}

namespace Ref

/-- Of two references that may be found, the first is found only if the second is, under the same
name. -/
def NamedAs (ref' ref : Option Ref) : Prop :=
  ∀ r' ∈ ref', ∃ r ∈ ref, r.name = r'.name

variable {ref ref' : Option Ref}

theorem namedAs_named?
    {kindName kindName' : Text}
    (hname : name'.RemainsOf name) :
    NamedAs (named? kindName' name' ns' apiVersion') (named? kindName name ns apiVersion) := by
  intro r' hr'
  obtain ⟨text, htext, rfl⟩ := Option.map_eq_some_iff.mp hr'
  exact ⟨_, Option.map_eq_some_iff.mpr ⟨text, hname.text?_eq htext, rfl⟩, rfl⟩

theorem namedAs_ofKind?
    {k k' : Kind}
    (hname : name'.RemainsOf name) :
    NamedAs (ofKind? k' name' ns') (ofKind? k name ns) :=
  namedAs_named? hname

theorem namedAs_ofKindField?
    (hkind : kind'.RemainsOf kind)
    (hname : name'.RemainsOf name) :
    NamedAs (ofKindField? kind' name' ns' apiVersion') (ofKindField? kind name ns apiVersion) := by
  intro r' hr'
  obtain ⟨text, htext, hr'⟩ := Option.bind_eq_some_iff.mp hr'
  obtain ⟨r, hr, heq⟩ := namedAs_named? hname r' hr'
  exact ⟨r, Option.bind_eq_some_iff.mpr ⟨text, hkind.text?_eq htext, hr⟩, heq⟩

/-- A kind that is broken may give way to the default one, but what had neither has neither. -/
theorem namedAs_ofObject?
    (h : j'.RemainsOf j)
    (defaultKind : Option Text) :
    NamedAs (ofObject? j' defaultKind) (ofObject? j defaultKind) := by
  intro r' hr'
  obtain ⟨kind', hkind', hr'⟩ := Option.bind_eq_some_iff.mp hr'
  obtain ⟨name, hname, hr'⟩ := Option.bind_eq_some_iff.mp hr'
  obtain rfl := Option.some.inj hr'
  have hkind : ∃ kind, ((j.get "kind").text? <|> defaultKind) = some kind := by
    cases hfield : (j.get "kind").text? with
    | some kind => exact ⟨kind, rfl⟩
    | none =>
      have hfield' : (j'.get "kind").text? = none :=
        Option.eq_none_iff_forall_ne_some.mpr fun text htext => by
          simp [(h.get "kind").text?_eq htext] at hfield
      rw [hfield'] at hkind'
      exact ⟨kind', hkind'⟩
  obtain ⟨kind, hkind⟩ := hkind
  have hfound : ofObject? j defaultKind = some ⟨kind, name, (j.get "namespace").text?,
      (j.get "apiVersion").text?, (j.get "uid").text?⟩ := by
    rw [ofObject?, hkind, (h.get "name").text?_eq hname]
    rfl
  exact ⟨_, hfound, rfl⟩

/-- A reference that is taken on a condition is not let in by a condition that held before. -/
theorem NamedAs.ite
    {P P' : Prop} [Decidable P] [Decidable P']
    (hP : P' → P)
    (h : NamedAs ref' ref) :
    NamedAs (if P' then ref' else none) (if P then ref else none) := by
  intro r' hr'
  rw [Option.mem_def, Option.ite_none_right_eq_some] at hr'
  rw [if_pos (hP hr'.1)]
  exact h r' hr'.2

end Ref

open Ref

/-! ## Names of references -/

/-- All that some references name is named by others, in the same order. -/
def NamesWithin (refs' refs : List Ref) : Prop :=
  (refs'.map Ref.name).Sublist (refs.map Ref.name)

theorem NamesWithin.append
    {refs refs' others others' : List Ref}
    (h : NamesWithin refs' refs)
    (hothers : NamesWithin others' others) :
    NamesWithin (refs' ++ others') (refs ++ others) := by
  rw [NamesWithin, List.map_append, List.map_append]
  exact List.Sublist.append h hothers

/-- The references of each object in a list are apart from those of the others. -/
theorem namesWithin_objects
    {f f' : Json → List Ref}
    (h : j'.RemainsOf j)
    (hf : ∀ x' x, x'.RemainsOf x → NamesWithin (f' x') (f x)) :
    NamesWithin (j'.objects.flatMap f') (j.objects.flatMap f) := by
  rw [NamesWithin, List.map_flatMap, List.map_flatMap]
  exact Json.sublist_flatMap hf h.objects

theorem found_cons (ref : Option Ref) (refs : List (Option Ref)) :
    found (ref :: refs) = ref.toList ++ found refs := by
  cases ref <;> rfl

theorem namesWithin_found
    {refs refs' : List (Option Ref)}
    (h : List.Forall₂ NamedAs refs' refs) :
    NamesWithin (found refs') (found refs) := by
  induction h with
  | nil => exact List.nil_sublist _
  | @cons ref' ref refs' refs href _ ih =>
    rw [found_cons, found_cons]
    refine NamesWithin.append ?_ ih
    cases ref' with
    | none => exact List.nil_sublist _
    | some r' =>
      obtain ⟨r, hr, heq⟩ := href r' rfl
      rw [hr, NamesWithin, Option.toList, Option.toList, List.map_singleton, List.map_singleton,
        heq]

theorem found_map {α : Type} (f : α → Option Ref) (xs : List α) :
    found (xs.map f) = xs.flatMap fun x => found [f x] := by
  induction xs with
  | nil => rfl
  | cons x xs ih => rw [List.map_cons, found_cons, ih, List.flatMap_cons, found_cons, found,
      List.filterMap_nil, List.append_nil]

theorem namesWithin_found_one
    {ref ref' : Option Ref}
    (h : NamedAs ref' ref) :
    NamesWithin (found [ref']) (found [ref]) :=
  namesWithin_found (.cons h .nil)

theorem namesWithin_found_two
    {ref ref' other other' : Option Ref}
    (h : NamedAs ref' ref)
    (hother : NamedAs other' other) :
    NamesWithin (found [ref', other']) (found [ref, other]) :=
  namesWithin_found (.cons h (.cons hother .nil))

theorem namesWithin_found_objects
    {f f' : Json → Option Ref}
    (h : j'.RemainsOf j)
    (hf : ∀ x' x, x'.RemainsOf x → NamedAs (f' x') (f x)) :
    NamesWithin (found (j'.objects.map f')) (found (j.objects.map f)) := by
  rw [found_map, found_map]
  exact namesWithin_objects h fun x' x hx => namesWithin_found_one (hf x' x hx)

/-! ## References of a pod specification -/

namespace PodSpec

theorem namesWithin_variableRefs (h : j'.RemainsOf j) :
    NamesWithin (variableRefs ns' j') (variableRefs ns j) :=
  namesWithin_found_two (namedAs_ofKind? (h.path _)) (namedAs_ofKind? (h.path _))

theorem namesWithin_variableSourceRefs (h : j'.RemainsOf j) :
    NamesWithin (variableSourceRefs ns' j') (variableSourceRefs ns j) :=
  namesWithin_found_two (namedAs_ofKind? (h.path _)) (namedAs_ofKind? (h.path _))

theorem namesWithin_containerRefs (h : j'.RemainsOf j) :
    NamesWithin (containerRefs ns' j') (containerRefs ns j) :=
  .append (namesWithin_objects (h.get _) fun _ _ => namesWithin_variableRefs)
    (namesWithin_objects (h.get _) fun _ _ => namesWithin_variableSourceRefs)

theorem namesWithin_projectionRefs (h : j'.RemainsOf j) :
    NamesWithin (projectionRefs ns' j') (projectionRefs ns j) :=
  namesWithin_found_two (namedAs_ofKind? (h.path _)) (namedAs_ofKind? (h.path _))

theorem namesWithin_volumeRefs (h : j'.RemainsOf j) :
    NamesWithin (volumeRefs ns' j') (volumeRefs ns j) := by
  refine .append (namesWithin_found ?_)
    (namesWithin_objects (h.path _) fun _ _ => namesWithin_projectionRefs)
  exact .cons (namedAs_ofKind? (h.path _)) <| .cons (namedAs_ofKind? (h.path _)) <|
    .cons (namedAs_ofKind? (h.path _)) <| .cons (namedAs_ofKind? (h.path _)) <|
    .cons (namedAs_ofKind? (h.path _)) .nil

theorem namesWithin_containers
    (h : j'.RemainsOf j)
    (fields : List Text) :
    NamesWithin (fields.flatMap fun field => (j'.get field).objects.flatMap (containerRefs ns'))
      (fields.flatMap fun field => (j.get field).objects.flatMap (containerRefs ns)) := by
  induction fields with
  | nil => exact List.nil_sublist _
  | cons field fields ih =>
    rw [List.flatMap_cons, List.flatMap_cons]
    exact .append (namesWithin_objects (h.get field) fun _ _ => namesWithin_containerRefs) ih

theorem namesWithin_refs (h : j'.RemainsOf j) : NamesWithin (refs ns' j') (refs ns j) := by
  refine .append (.append (.append ?_ ?_) (namesWithin_containers h containerFields)) ?_
  · exact namesWithin_found_one (namedAs_ofKind? (h.get _))
  · exact namesWithin_objects (h.get _) fun _ _ => namesWithin_volumeRefs
  · exact namesWithin_found_objects (h.get _) fun _ _ hx => namedAs_ofKind? (hx.get _)

end PodSpec

/-! ## References of each kind -/

namespace Workload

theorem namesWithin_podRefs (h : raw'.RemainsOf raw) :
    NamesWithin (podRefs raw') (podRefs raw) := by
  have hspec := h.get "spec"
  refine .append (namesWithin_found ?_) (PodSpec.namesWithin_refs hspec)
  exact .cons (namedAs_ofKind? (hspec.get _)) <| .cons (namedAs_ofKind? (hspec.get _)) <|
    .cons (namedAs_ofKind? (hspec.get _)) .nil

theorem namesWithin_templateRefs (h : raw'.RemainsOf raw) :
    NamesWithin (templateRefs raw') (templateRefs raw) :=
  PodSpec.namesWithin_refs (h.path _)

theorem namesWithin_jobTemplateRefs (h : raw'.RemainsOf raw) :
    NamesWithin (jobTemplateRefs raw') (jobTemplateRefs raw) :=
  PodSpec.namesWithin_refs (h.path _)

theorem namesWithin_statefulRefs (h : raw'.RemainsOf raw) :
    NamesWithin (statefulRefs raw') (statefulRefs raw) := by
  have hspec := h.get "spec"
  refine .append (.append ?_ ?_) (PodSpec.namesWithin_refs (hspec.path _))
  · exact namesWithin_found_objects (hspec.get _) fun _ _ hx => namedAs_ofKind? (hx.path _)
  · exact namesWithin_found_one (namedAs_ofKind? (hspec.get _))

theorem namesWithin_scaleTargetRefs (h : raw'.RemainsOf raw) :
    NamesWithin (scaleTargetRefs raw') (scaleTargetRefs raw) := by
  have htarget := h.path ["spec", "scaleTargetRef"]
  exact namesWithin_found_one (namedAs_ofKindField? (htarget.get _) (htarget.get _))

end Workload

namespace Traffic

theorem namesWithin_backendRefs (h : j'.RemainsOf j) :
    NamesWithin (backendRefs ns' j') (backendRefs ns j) := by
  have hresource := h.get "resource"
  exact namesWithin_found_two (namedAs_ofKind? (h.path _))
    (namedAs_ofKindField? (hresource.get _) (hresource.get _))

theorem namesWithin_ruleRefs (h : j'.RemainsOf j) :
    NamesWithin (ruleRefs ns' j') (ruleRefs ns j) :=
  namesWithin_objects (h.path _) fun _ _ hx => namesWithin_backendRefs (hx.get _)

theorem namesWithin_ingressRefs (h : raw'.RemainsOf raw) :
    NamesWithin (ingressRefs raw') (ingressRefs raw) := by
  have hspec := h.get "spec"
  refine .append (.append (.append ?_ ?_) ?_) ?_
  · exact namesWithin_found_one (namedAs_ofKind? (hspec.get _))
  · exact namesWithin_backendRefs (hspec.get _)
  · exact namesWithin_objects (hspec.get _) fun _ _ => namesWithin_ruleRefs
  · exact namesWithin_found_objects (hspec.get _) fun _ _ hx => namedAs_ofKind? (hx.get _)

theorem namesWithin_ingressClassRefs (h : raw'.RemainsOf raw) :
    NamesWithin (ingressClassRefs raw') (ingressClassRefs raw) := by
  have hparameters := h.path ["spec", "parameters"]
  exact namesWithin_found_one (namedAs_ofKindField? (hparameters.get _) (hparameters.get _))

theorem namedAs_serviceRef? (h : j'.RemainsOf j) : NamedAs (serviceRef? j') (serviceRef? j) :=
  namedAs_ofKind? (h.get _)

theorem namesWithin_webhookRefs (h : raw'.RemainsOf raw) :
    NamesWithin (webhookRefs raw') (webhookRefs raw) :=
  namesWithin_found_objects (h.get _) fun _ _ hx => namedAs_serviceRef? (hx.path _)

theorem namesWithin_apiServiceRefs (h : raw'.RemainsOf raw) :
    NamesWithin (apiServiceRefs raw') (apiServiceRefs raw) :=
  namesWithin_found_one (namedAs_serviceRef? (h.path _))

end Traffic

namespace Access

theorem namesWithin_serviceAccountRefs (h : raw'.RemainsOf raw) :
    NamesWithin (serviceAccountRefs raw') (serviceAccountRefs raw) :=
  .append (namesWithin_found_objects (h.get _) fun _ _ hx => namedAs_ofKind? (hx.get _))
    (namesWithin_found_objects (h.get _) fun _ _ hx => namedAs_ofKind? (hx.get _))

/-- A subject whose kind is broken is no service account any more. -/
theorem namesWithin_subjectRefs (h : raw'.RemainsOf raw) :
    NamesWithin (subjectRefs ns' raw') (subjectRefs ns raw) :=
  namesWithin_found_objects (h.get _) fun _ _ hx =>
    .ite (hx.get _).text?_eq (namedAs_ofKind? (hx.get _))

theorem namesWithin_roleBindingRefs (h : raw'.RemainsOf raw) :
    NamesWithin (roleBindingRefs raw') (roleBindingRefs raw) := by
  have hrole := h.get "roleRef"
  exact .append (namesWithin_found_one (namedAs_ofKindField? (hrole.get _) (hrole.get _)))
    (namesWithin_subjectRefs h)

theorem namesWithin_clusterRoleBindingRefs (h : raw'.RemainsOf raw) :
    NamesWithin (clusterRoleBindingRefs raw') (clusterRoleBindingRefs raw) := by
  have hrole := h.get "roleRef"
  exact .append (namesWithin_found_one (.ite (hrole.get _).text?_eq (namedAs_named? (hrole.get _))))
    (namesWithin_subjectRefs h)

end Access

namespace Storage

theorem namesWithin_claimRefs (h : raw'.RemainsOf raw) :
    NamesWithin (claimRefs raw') (claimRefs raw) :=
  namesWithin_found_two (namedAs_ofKind? (h.path _)) (namedAs_ofKind? (h.path _))

theorem namesWithin_volumeRefs (h : raw'.RemainsOf raw) :
    NamesWithin (volumeRefs raw') (volumeRefs raw) :=
  namesWithin_found_two (namedAs_ofObject? (h.path _) _) (namedAs_ofKind? (h.path _))

end Storage

theorem namesWithin_eventRefs (h : raw'.RemainsOf raw) :
    NamesWithin (eventRefs raw') (eventRefs raw) :=
  namesWithin_found_two (namedAs_ofObject? (h.get _) _) (namedAs_ofObject? (h.get _) _)

theorem Kind.namesWithin_declaredRefs
    (k : Kind)
    (h : raw'.RemainsOf raw) :
    NamesWithin (k.declaredRefs raw') (k.declaredRefs raw) := by
  cases k with
  | pod => exact Workload.namesWithin_podRefs h
  | deployment | replicaSet | daemonSet | job => exact Workload.namesWithin_templateRefs h
  | cronJob => exact Workload.namesWithin_jobTemplateRefs h
  | statefulSet => exact Workload.namesWithin_statefulRefs h
  | horizontalPodAutoscaler => exact Workload.namesWithin_scaleTargetRefs h
  | ingress => exact Traffic.namesWithin_ingressRefs h
  | ingressClass => exact Traffic.namesWithin_ingressClassRefs h
  | validatingWebhookConfiguration | mutatingWebhookConfiguration =>
    exact Traffic.namesWithin_webhookRefs h
  | apiService => exact Traffic.namesWithin_apiServiceRefs h
  | serviceAccount => exact Access.namesWithin_serviceAccountRefs h
  | roleBinding => exact Access.namesWithin_roleBindingRefs h
  | clusterRoleBinding => exact Access.namesWithin_clusterRoleBindingRefs h
  | persistentVolumeClaim => exact Storage.namesWithin_claimRefs h
  | persistentVolume => exact Storage.namesWithin_volumeRefs h
  | event => exact namesWithin_eventRefs h
  | _ => exact List.nil_sublist _

theorem namesWithin_declaredRefs
    (kind : Text)
    (h : raw'.RemainsOf raw) :
    NamesWithin (declaredRefs kind raw') (declaredRefs kind raw) := by
  unfold declaredRefs
  split
  · next k _ => exact k.namesWithin_declaredRefs h
  · exact List.nil_sublist _

/-! ## Broken objects -/

/-- No text of a reference is empty. -/
structure Ref.Filled (r : Ref) : Prop where
  kind : r.kind ≠ ""
  name : r.name ≠ ""
  ns : r.ns ≠ some ""
  apiVersion : r.apiVersion ≠ some ""
  uid : r.uid ≠ some ""

theorem Kind.name_ne_empty (k : Kind) : k.name ≠ "" := by
  cases k
  all_goals decide

theorem Ref.ReadFrom.filled
    {r : Ref}
    (h : r.ReadFrom raw) :
    r.Filled := by
  have hpart {part : Option Text} (hpart : ∀ t ∈ part, raw.Holds t) : part ≠ some "" :=
    fun heq => (hpart "" heq).ne_empty rfl
  refine ⟨?_, h.name.ne_empty, hpart h.ns, hpart h.apiVersion, hpart h.uid⟩
  obtain ⟨k, hk⟩ | hheld := h.kind
  · rw [hk]
    exact k.name_ne_empty
  · exact hheld.ne_empty

/-- When one part of a raw object is broken, at any depth, the names that it refers to are those of
the whole object in the same order, less some of them.  Whatever the object, no text of its
references is empty. -/
theorem broken_object_refers_to_less (kind : Text) (raw : Json) :
    (∀ raw', raw.Broken raw' →
      ((declaredRefs kind raw').map Ref.name).Sublist ((declaredRefs kind raw).map Ref.name)) ∧
    ∀ r ∈ declaredRefs kind raw, r.Filled :=
  ⟨fun _ h => namesWithin_declaredRefs kind (.inr h),
    fun r hr => (readFrom_declaredRefs kind raw r hr).filled⟩

/-- A subject of a binding that loses its kind is left out, and the others stay. -/
theorem broken_object_refers_to_less_of_subject :
    let account (name : Text) (kind : Json) : Json := .obj [("name", .str name), ("kind", kind)]
    let binding (kind : Json) : Json := .obj [
      ("metadata", .obj [("namespace", .str "prod")]),
      ("roleRef", .obj [("kind", .str "Role"), ("name", .str "edit")]),
      ("subjects", .arr [account "ci" (.str "ServiceAccount"), account "cd" kind,
        account "qa" (.str "ServiceAccount")])]
    let names (raw : Json) : List Text := (declaredRefs "RoleBinding" raw).map Ref.name
    let whole := binding (.str "ServiceAccount")
    let broken := binding (.int 7)
    whole.Broken broken ∧ (names broken).Sublist (names whole) ∧
      names whole = ["edit", "ci", "cd", "qa"] ∧ names broken = ["edit", "ci", "qa"] ∧
      ∀ r ∈ declaredRefs "RoleBinding" broken, r.Filled := by
  intro account binding names whole broken
  have hkind : Json.Broken (account "cd" (.str "ServiceAccount")) (account "cd" (.int 7)) := by
    have hlookup : (account "cd" (.str "ServiceAccount")).members.lookup ("kind" : Text) =
        some (.str "ServiceAccount") := rfl
    exact .member hlookup (.int _ 7)
  have hsubjects := Json.Broken.item [account "ci" (.str "ServiceAccount")]
    [account "qa" (.str "ServiceAccount")] hkind
  have hbroken : whole.Broken broken := by
    have hlookup : whole.members.lookup ("subjects" : Text) = some (.arr _) := rfl
    exact .member hlookup hsubjects
  have hwhole : names whole = ["edit", "ci", "cd", "qa"] := by decide +kernel
  have hleft : names broken = ["edit", "ci", "qa"] := by decide +kernel
  exact ⟨hbroken, (broken_object_refers_to_less "RoleBinding" whole).1 broken hbroken, hwhole, hleft,
    (broken_object_refers_to_less "RoleBinding" broken).2⟩

end ClusterLineage
