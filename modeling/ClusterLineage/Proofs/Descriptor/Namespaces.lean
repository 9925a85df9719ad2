import ClusterLineage.Descriptor.Basic
import ClusterLineage.Proofs.Declared.Origin
import ClusterLineage.Proofs.Kind
import Mathlib.Data.List.Forall2

/-!
# References stay in the namespace

A descriptor can give a namespace in three places, and whatever it gives there, the resource and
what the resource refers to take it from the same one.  So the references of pods, of what makes
pods, and of a few other kinds never leave the namespace of the resource, however deep they stand in
the specification; an owner may name a namespace of its own.
-/

namespace ClusterLineage

variable {d : Json} {r : Resource} {ref : Ref} {k : Kind}

/-- What is declared depends on the kind in any letter case. -/
theorem declaredRefs_eq_of_lower_eq
    {kind : Text}
    (hkind : Text.lower kind = Text.lower k.name)
    (raw : Json) :
    declaredRefs kind raw = k.declaredRefs raw := by
  rw [declaredRefs, Kind.declaring?, Kind.ofName?_eq_some_iff.mpr hkind.symm, Option.filter_some]
  cases k
  all_goals rfl

namespace Descriptor

/-- Whether an entry names an owner by kind and name. -/
def namesOwner (entry : Json) : Bool :=
  (entry.get "kind").text?.isSome && (entry.get "name").text?.isSome

/-- The entries of a descriptor that name an owner. -/
def ownerEntries (d : Json) : List Json :=
  (d.path ["metadata", "ownerReferences"]).objects.filter namesOwner

/-- An owner as an entry names it: in the namespace that the entry has, if that is a text and not
empty, and otherwise in the given one. -/
structure OwnerNamed (ns : Option Text) (entry : Json) (owner : Ref) : Prop where
  kind : entry.get "kind" = .str owner.kind
  name : entry.get "name" = .str owner.name
  own : ∀ t, entry.get "namespace" = .str t → t ≠ "" → owner.ns = some t
  inherited : (∀ t, entry.get "namespace" = .str t → t = "") → owner.ns = ns

theorem ownerNamed_of_eq_some
    {ns : Option Text} {entry : Json} {owner : Ref}
    (h : owner? ns entry = some owner) :
    OwnerNamed ns entry owner := by
  obtain ⟨kind, hkind, h⟩ := Option.bind_eq_some_iff.mp h
  obtain ⟨name, hname, h⟩ := Option.bind_eq_some_iff.mp h
  obtain rfl := Option.some.inj h
  refine ⟨(Json.text?_eq_some_iff.mp hkind).1, (Json.text?_eq_some_iff.mp hname).1, ?_, ?_⟩
  · intro t ht hne
    dsimp only
    rw [Json.text?_eq_some_iff.mpr ⟨ht, hne⟩]
    rfl
  · intro hempty
    have hnone : (entry.get "namespace").text? = none := by
      rw [Option.eq_none_iff_forall_ne_some]
      intro t ht
      obtain ⟨hstr, hne⟩ := Json.text?_eq_some_iff.mp ht
      exact hne (hempty t hstr)
    dsimp only
    rw [hnone]
    rfl

theorem isSome_owner? (ns : Option Text) (entry : Json) :
    (owner? ns entry).isSome = namesOwner entry := by
  rw [owner?, namesOwner]
  cases (entry.get "kind").text? with
  | none => rfl
  | some kind =>
    cases (entry.get "name").text? with
    | none => rfl
    | some name => rfl

/-- The owners are read one by one from the entries that name one. -/
theorem forall₂_ownerNamed (ns : Option Text) (d : Json) :
    List.Forall₂ (OwnerNamed ns) (ownerEntries d) (owners ns d) := by
  unfold ownerEntries owners
  induction (d.path ["metadata", "ownerReferences"]).objects with
  | nil => exact .nil
  | cons entry entries ih =>
    have hnamed := isSome_owner? ns entry
    cases howner : owner? ns entry with
    | none =>
      rw [howner, Option.isSome_none] at hnamed
      rw [List.filterMap_cons_none howner, List.filter_cons_of_neg (by simp [← hnamed])]
      exact ih
    | some owner =>
      rw [howner, Option.isSome_some] at hnamed
      rw [List.filterMap_cons_some howner, List.filter_cons_of_pos hnamed.symm]
      exact .cons (ownerNamed_of_eq_some howner) ih

theorem ns_of_mem_relations
    (h : read d = .ok r)
    (hk : k ∈ Kind.inOwnNamespace)
    (hkind : Text.lower r.kind = Text.lower k.name)
    (href : ref ∈ r.relations) :
    ref.ns = r.ns ∨ ref.ns = none ∧ ∃ target ∈ Kind.clusterWide, ref.kind = target.name := by
  obtain ⟨kind, name, -, -, hr⟩ := exists_eq_resource_of_read h
  have hrelations : r.relations = declaredRefs r.kind d := by rw [hr, resource]
  have hns : r.ns = d.ns? := by rw [hr, resource]
  rw [hrelations, declaredRefs_eq_of_lower_eq hkind] at href
  rw [hns]
  exact (Kind.readBeside_declaredRefs hk d ref href).ns_cases

/-- Whatever a descriptor gives as namespaces, a resource of one of the kinds that keep to their own
refers to others in its namespace, or to nodes, classes and drivers, which have none.  An owner of
any resource is in the namespace that its entry names, or else in that of the resource. -/
theorem references_stay_in_namespace (h : read d = .ok r) :
    (∀ k ∈ Kind.inOwnNamespace, Text.lower r.kind = Text.lower k.name →
      ∀ ref ∈ r.relations, ref.ns = r.ns ∨
        ref.ns = none ∧ ∃ target ∈ Kind.clusterWide, ref.kind = target.name) ∧
      List.Forall₂ (OwnerNamed r.ns) (ownerEntries d) r.owners := by
  constructor
  · intro k hk hkind ref href
    exact ns_of_mem_relations h hk hkind href
  · obtain ⟨kind, name, -, -, rfl⟩ := exists_eq_resource_of_read h
    exact forall₂_ownerNamed _ d

/-- A pod whose metadata give a number as namespace is in the one that is given at the top level, and
so are its service account and the secret of a driver; the driver itself has none.  The first entry
of an owner leaves the namespace empty, the second has no name, and the third names a namespace of
its own. -/
theorem references_stay_in_namespace_of_pod :
    let d : Json := .obj [
      ("kind", .str "POD"),
      ("ns", .str "prod"),
      ("namespace", .str "test"),
      ("metadata", .obj [("name", .str "web"), ("namespace", .int 7),
        ("ownerReferences", .arr [
          .obj [("kind", .str "App"), ("name", .str "shop"), ("namespace", .str "")],
          .obj [("kind", .str "App")],
          .obj [("kind", .str "App"), ("name", .str "shop"), ("namespace", .str "test")]])]),
      ("spec", .obj [("serviceAccountName", .str "runner"),
        ("volumes", .arr [.obj [("csi", .obj [("driver", .str "disk"),
          ("nodePublishSecretRef", .obj [("name", .str "token")])])]])])]
    let r : Resource := resource "POD" "web" d
    let prod : Text := "prod"
    let test : Text := "test"
    read d = .ok r ∧ Kind.pod ∈ Kind.inOwnNamespace ∧
      Text.lower r.kind = Text.lower Kind.pod.name ∧
      (∀ ref ∈ r.relations, ref.ns = r.ns ∨
        ref.ns = none ∧ ∃ target ∈ Kind.clusterWide, ref.kind = target.name) ∧
      r.relations.map Ref.ns = [some prod, none, some prod] ∧
      List.Forall₂ (OwnerNamed r.ns) (ownerEntries d) r.owners ∧
      r.owners.map Ref.ns = [some prod, some test] := by
  intro d r prod test
  have hread : read d = .ok r := rfl
  have hkind : Text.lower r.kind = Text.lower Kind.pod.name := by decide
  have hrelations : r.relations.map Ref.ns = [some prod, none, some prod] := by decide +kernel
  have howners : r.owners.map Ref.ns = [some prod, some test] := by decide +kernel
  obtain ⟨hstay, hnamed⟩ := references_stay_in_namespace hread
  exact ⟨hread, by decide, hkind, hstay .pod (by decide) hkind, hrelations, hnamed, howners⟩

end Descriptor

end ClusterLineage
