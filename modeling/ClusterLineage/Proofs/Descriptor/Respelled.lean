import ClusterLineage.Proofs.Batch.Respelled
import ClusterLineage.Proofs.Json.Fields

/-!
# Descriptors with kinds in other letter case

Descriptors are arbitrary values, so what it means that two of them differ in the letter case of
kinds only has to be said for whatever stands in the place of a kind, of metadata or of an owner.
Two such descriptors describe resources that differ in spelling only, or both describe none.
-/

namespace ClusterLineage

/-- Two values are the same, or texts that differ in letter case only. -/
def Json.SameWord (j j' : Json) : Prop :=
  j = j' ∨ ∃ s s', j = .str s ∧ j' = .str s' ∧ Text.lower s = Text.lower s'

/-- Two objects have the same members, but for some that are named. -/
structure Json.AgreeBut (apart : List Text) (j j' : Json) : Prop where
  isObject : j.isObject = true
  isObject' : j'.isObject = true
  get_eq : ∀ name ∉ apart, j.get name = j'.get name

namespace Descriptor

/-- Two owners are the same up to the letter case of the kind and what is carried along. -/
def OwnerRespelled (o o' : Json) : Prop :=
  o = o' ∨ Json.AgreeBut ["kind", "apiVersion", "uid"] o o' ∧
    Json.SameWord (o.get "kind") (o'.get "kind")

/-- Two values list the same owners, one by one and up to spelling. -/
def OwnersRespelled (v v' : Json) : Prop :=
  v = v' ∨ ∃ os os', v = .arr os ∧ v' = .arr os' ∧ List.Forall₂ OwnerRespelled os os'

/-- Metadata with any identifier, and with the same owners up to spelling. -/
def MetadataRespelled (m m' : Json) : Prop :=
  m = m' ∨ Json.AgreeBut ["uid", "ownerReferences"] m m' ∧
    OwnersRespelled (m.get "ownerReferences") (m'.get "ownerReferences")

/-- Two descriptors are the same, or objects that agree but for the letter case of their kinds and
of those of their owners, and for versions and identifiers. -/
def Respelled (d d' : Json) : Prop :=
  d = d' ∨ Json.AgreeBut ["kind", "apiVersion", "metadata"] d d' ∧
    Json.SameWord (d.get "kind") (d'.get "kind") ∧
      MetadataRespelled (d.get "metadata") (d'.get "metadata")

end Descriptor

open Descriptor

variable {j j' d d' m m' o o' v v' : Json}

theorem Json.SameWord.map_lower_text? (h : j.SameWord j') :
    j.text?.map Text.lower = j'.text?.map Text.lower := by
  obtain rfl | ⟨s, s', rfl, rfl, hlower⟩ := h
  · rfl
  · have hempty : s.isEmpty = s'.isEmpty := by
      rw [← Text.isEmpty_lower s, ← Text.isEmpty_lower s', hlower]
    rw [text?, text?, hempty]
    split
    · rfl
    · exact congrArg some hlower

theorem Json.agreeBut_of_filter_eq
    {apart : List Text}
    {ms ms' : List (Text × Json)}
    (h : ms.filter (·.1 ∉ apart) = ms'.filter (·.1 ∉ apart)) :
    AgreeBut apart (.obj ms) (.obj ms') where
  isObject := rfl
  isObject' := rfl
  get_eq name hname := by rw [← get_filter_notMem hname ms, h, get_filter_notMem hname ms']

/-! ## Owners -/

theorem Descriptor.OwnerRespelled.isObject_eq (h : OwnerRespelled o o') :
    o.isObject = o'.isObject := by
  obtain rfl | ⟨hagree, -⟩ := h
  · rfl
  · rw [hagree.isObject, hagree.isObject']

/-- The key of the owner, if one is described, is the same. -/
theorem Descriptor.OwnerRespelled.map_key_owner?
    (h : OwnerRespelled o o')
    (ns : Option Text) :
    (owner? ns o).map Ref.key = (owner? ns o').map Ref.key := by
  obtain rfl | ⟨hagree, hkind⟩ := h
  · rfl
  · have hwords := hkind.map_lower_text?
    have hname : o.get "name" = o'.get "name" := hagree.get_eq "name" (by decide)
    have hns : o.get "namespace" = o'.get "namespace" := hagree.get_eq "namespace" (by decide)
    rw [owner?, owner?, hname, hns]
    cases hk : (o.get "kind").text? with
    | none =>
      rw [hk, Option.map_none, eq_comm, Option.map_eq_none_iff] at hwords
      rw [hwords]
      rfl
    | some kind =>
      rw [hk, Option.map_some, eq_comm, Option.map_eq_some_iff] at hwords
      obtain ⟨kind', hk', hlower⟩ := hwords
      rw [hk']
      cases (o'.get "name").text? with
      | none => rfl
      | some name => exact congrArg some (key_congr hlower.symm _ name)

theorem Descriptor.OwnersRespelled.map_key_owners
    (h : OwnersRespelled v v')
    (ns : Option Text) :
    (v.objects.filterMap (owner? ns)).map Ref.key =
      (v'.objects.filterMap (owner? ns)).map Ref.key := by
  obtain rfl | ⟨os, os', rfl, rfl, howners⟩ := h
  · rfl
  · rw [List.map_filterMap, List.map_filterMap]
    change (os.filter Json.isObject).filterMap _ = (os'.filter Json.isObject).filterMap _
    induction howners with
    | nil => rfl
    | @cons o o' os os' ho _ ih =>
      by_cases hobject : o.isObject = true
      · rw [List.filter_cons_of_pos hobject, List.filter_cons_of_pos (ho.isObject_eq ▸ hobject),
          List.filterMap_cons, List.filterMap_cons, ho.map_key_owner? ns, ih]
      · rw [List.filter_cons_of_neg hobject, List.filter_cons_of_neg (ho.isObject_eq ▸ hobject), ih]

theorem Descriptor.MetadataRespelled.get_eq
    (h : MetadataRespelled m m')
    {name : Text}
    (hname : name ∉ (["uid", "ownerReferences"] : List Text)) :
    m.get name = m'.get name := by
  obtain rfl | ⟨hagree, -⟩ := h
  · rfl
  · exact hagree.get_eq name hname

theorem Descriptor.MetadataRespelled.owners (h : MetadataRespelled m m') :
    OwnersRespelled (m.get "ownerReferences") (m'.get "ownerReferences") := by
  obtain rfl | ⟨-, howners⟩ := h
  · exact .inl rfl
  · exact howners

/-! ## What a kind declares -/

/-- The members that references are read from, the namespace apart. -/
def Kind.declaringMembers : List Text :=
  ["spec", "roleRef", "subjects", "secrets", "imagePullSecrets", "webhooks", "involvedObject",
    "related"]

/-- What a raw object refers to by name is read from its namespace and from a few members. -/
theorem Kind.declaredRefs_congr
    (k : Kind)
    (hns : d.ns? = d'.ns?)
    (hget : ∀ name ∈ declaringMembers, d.get name = d'.get name) :
    k.declaredRefs d = k.declaredRefs d' := by
  have hspec : d.get "spec" = d'.get "spec" := hget "spec" (by decide)
  have hbelow (names : List Text) : d.path ("spec" :: names) = d'.path ("spec" :: names) := by
    rw [Json.path, Json.path, List.foldl_cons, List.foldl_cons, hspec]
  have hrole : d.get "roleRef" = d'.get "roleRef" := hget "roleRef" (by decide)
  have hsubjects : d.get "subjects" = d'.get "subjects" := hget "subjects" (by decide)
  have hsecrets : d.get "secrets" = d'.get "secrets" := hget "secrets" (by decide)
  have hpull : d.get "imagePullSecrets" = d'.get "imagePullSecrets" :=
    hget "imagePullSecrets" (by decide)
  have hwebhooks : d.get "webhooks" = d'.get "webhooks" := hget "webhooks" (by decide)
  have hinvolved : d.get "involvedObject" = d'.get "involvedObject" :=
    hget "involvedObject" (by decide)
  have hrelated : d.get "related" = d'.get "related" := hget "related" (by decide)
  cases k with
  | pod => simp only [declaredRefs, Workload.podRefs, hspec, hns]
  | deployment | replicaSet | daemonSet | job =>
    simp only [declaredRefs, Workload.templateRefs, hbelow, hns]
  | cronJob => simp only [declaredRefs, Workload.jobTemplateRefs, hbelow, hns]
  | statefulSet => simp only [declaredRefs, Workload.statefulRefs, hspec, hns]
  | horizontalPodAutoscaler => simp only [declaredRefs, Workload.scaleTargetRefs, hbelow, hns]
  | ingress => simp only [declaredRefs, Traffic.ingressRefs, hspec, hns]
  | ingressClass => simp only [declaredRefs, Traffic.ingressClassRefs, hbelow]
  | validatingWebhookConfiguration | mutatingWebhookConfiguration =>
    simp only [declaredRefs, Traffic.webhookRefs, hwebhooks]
  | apiService => simp only [declaredRefs, Traffic.apiServiceRefs, hbelow]
  | serviceAccount => simp only [declaredRefs, Access.serviceAccountRefs, hsecrets, hpull, hns]
  | roleBinding =>
    simp only [declaredRefs, Access.roleBindingRefs, Access.subjectRefs, hrole, hsubjects, hns]
  | clusterRoleBinding =>
    simp only [declaredRefs, Access.clusterRoleBindingRefs, Access.subjectRefs, hrole, hsubjects]
  | persistentVolumeClaim => simp only [declaredRefs, Storage.claimRefs, hbelow]
  | persistentVolume => simp only [declaredRefs, Storage.volumeRefs, hbelow]
  | event => simp only [declaredRefs, eventRefs, hinvolved, hrelated]
  | _ => rfl

theorem declaredRefs_congr
    {kind kind' : Text}
    (hkind : Text.lower kind = Text.lower kind')
    (hns : d.ns? = d'.ns?)
    (hget : ∀ name ∈ Kind.declaringMembers, d.get name = d'.get name) :
    declaredRefs kind d = declaredRefs kind' d' := by
  rw [declaredRefs, declaredRefs, Kind.declaring?, Kind.declaring?, Kind.ofName?_congr hkind]
  split
  · next k _ => exact k.declaredRefs_congr hns hget
  · rfl

/-! ## Resources -/

theorem Descriptor.respelled_resource
    {kind kind' : Text}
    (hkind : Text.lower kind = Text.lower kind')
    (hget : ∀ name ∉ (["kind", "apiVersion", "metadata"] : List Text), d.get name = d'.get name)
    (hmeta : MetadataRespelled (d.get "metadata") (d'.get "metadata"))
    (name : Text) :
    (resource kind name d).Respelled (resource kind' name d') := by
  have hpath : d.path ["metadata", "namespace"] = d'.path ["metadata", "namespace"] :=
    hmeta.get_eq (by decide)
  have hns : d.ns? = d'.ns? := by
    rw [Json.ns?, Json.ns?, hpath, hget "ns" (by decide), hget "namespace" (by decide)]
  have hdeclaring : ∀ name ∈ Kind.declaringMembers, d.get name = d'.get name := by
    have hapart : ∀ name ∈ Kind.declaringMembers,
        name ∉ (["kind", "apiVersion", "metadata"] : List Text) := by decide
    exact fun name hname => hget name (hapart name hname)
  refine ⟨hkind, rfl, hns, ?_, ?_, ?_, declaredRefs_congr hkind hns hdeclaring, ?_⟩
  · exact congrArg labels? (hget "labels" (by decide))
  · exact congrArg labels? (hget "selectors" (by decide))
  · change (owners d.ns? d).map Ref.key = (owners d'.ns? d').map Ref.key
    rw [hns]
    exact hmeta.owners.map_key_owners d'.ns?
  · change resourceType? d = resourceType? d'
    rw [resourceType?, resourceType?, hget "type" (by decide)]

/-- Descriptors that differ in spelling describe resources that do, or none. -/
theorem Descriptor.Respelled.rel_resource? (h : Respelled d d') :
    Option.Rel Resource.Respelled (resource? d) (resource? d') := by
  obtain rfl | ⟨hagree, hkind, hmeta⟩ := h
  · cases resource? d with
    | none => exact .none
    | some r => exact .some (.refl r)
  · have hpath : d.path ["metadata", "name"] = d'.path ["metadata", "name"] :=
      hmeta.get_eq (by decide)
    have hname : name? d = name? d' := by
      rw [name?, name?, hpath, hagree.get_eq "name" (by decide)]
    have hwords := hkind.map_lower_text?
    rw [resource?, resource?, read, read, if_pos hagree.isObject, if_pos hagree.isObject', hname]
    cases hk : (d.get "kind").text? with
    | none =>
      rw [hk, Option.map_none, eq_comm, Option.map_eq_none_iff] at hwords
      rw [hwords]
      exact .none
    | some kind =>
      rw [hk, Option.map_some, eq_comm, Option.map_eq_some_iff] at hwords
      obtain ⟨kind', hk', hlower⟩ := hwords
      rw [hk']
      cases name? d' with
      | none => exact .none
      | some name => exact .some (respelled_resource hlower.symm hagree.get_eq hmeta name)

/-- The resources that a batch describes differ in spelling, one by one. -/
theorem respelled_resources
    {ds ds' : List Json}
    (h : List.Forall₂ Descriptor.Respelled ds ds') :
    ClusterLineage.Respelled (ds.filterMap resource?) (ds'.filterMap resource?) :=
  List.rel_filterMap (fun _ _ hd => hd.rel_resource?) h

end ClusterLineage
