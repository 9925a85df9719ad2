import ClusterLineage.Proofs.Lineage.Diagnostics
import ClusterLineage.Proofs.Lineage.KeyAnswers

/-!
# Parts of a batch that have nothing to do with each other

Two parts of a batch are apart if no resource of one refers to a resource of the other or names it
as its owner.  Both still hang on the cluster: it owns what has no other owner, and it can be
referenced like any node.  But no answer looks past the cluster.  The steps from a resource along
edges, in either direction, stay in its part until they reach the cluster, and within the part they
are the same without the other one.
-/

namespace ClusterLineage

open Relation

/-- No resource of one part refers to one of the other, and none names one of the other as its
owner. -/
def Apart (rs ss : List Resource) : Prop :=
  ∀ r ∈ rs, ∀ s ∈ ss, ¬r.Refers s ∧ ¬s.Refers r ∧ ¬r.NamesOwner s ∧ ¬s.NamesOwner r

instance (r target : Resource) : Decidable (r.Refers target) :=
  inferInstanceAs (Decidable ((_ ∧ _) ∨ ∃ ref ∈ r.relations, ref.key = target.key))

instance (r owner : Resource) : Decidable (r.NamesOwner owner) :=
  decidable_of_iff (∃ ref ∈ r.owners.head?, ref.key = owner.key) Iff.rfl

instance (rs ss : List Resource) : Decidable (Apart rs ss) :=
  inferInstanceAs (Decidable (∀ r ∈ rs, ∀ s ∈ ss, _ ∧ _ ∧ _ ∧ _))

theorem Inserted.perm {added old all : List Resource} (h : Inserted added old all) :
    all.Perm (added ++ old) := by
  induction h with
  | nil => exact .nil
  | old r _ ih => exact (ih.cons r).trans List.perm_middle.symm
  | added r _ ih => exact ih.cons r

/-- A path of one relation is one of another if they agree wherever the path leads. -/
theorem reflTransGen_of_agree
    {α : Type} {R R' : α → α → Prop} {P : α → Prop} {a b : α}
    (hstep : ∀ c d, P c → R c d → P d ∧ R' c d)
    (ha : P a)
    (hpath : ReflTransGen R a b) :
    P b ∧ ReflTransGen R' a b := by
  induction hpath with
  | refl => exact ⟨ha, .refl⟩
  | tail _ hlast ih =>
    obtain ⟨hc, hpath⟩ := ih
    obtain ⟨hd, hlast⟩ := hstep _ _ hc hlast
    exact ⟨hd, hpath.tail hlast⟩

namespace Lineage

open Links

/-- The resources of a linked lineage are one part of those of another one, and the others are apart
from them. -/
structure PartOf (g g' : Lineage) (others : List Resource) : Prop where
  linked : g.isLinked = true
  linked' : g'.isLinked = true
  root_eq : g'.root = g.root
  mem_members_iff : ∀ r, r ∈ g'.members ↔ r ∈ others ∨ r ∈ g.members
  fresh : ∀ r ∈ others, r.key ∉ g.keys
  apart : Apart g.members others

/-- A key belongs to a node other than the cluster. -/
def HasMember (g : Lineage) (k : Text) : Prop :=
  ∃ r ∈ g.members, r.key = k

variable {g g' : Lineage} {others : List Resource} {i j : Nat} {a b k : Text} {type : EdgeType}
variable {r x : Resource}

theorem mem_keys_iff_root_or_hasMember : k ∈ g.keys ↔ k = g.root.key ∨ g.HasMember k := by
  rw [keys, nodes, List.map_cons, List.mem_cons, List.mem_map]
  rfl

theorem HasMember.ne_root (h : g.HasMember k) : k ≠ g.root.key := by
  obtain ⟨r, hr, rfl⟩ := h
  exact key_ne_root_of_mem_members hr

theorem hasMember_of_mem_keyEdges
    (he : ⟨a, b, type⟩ ∈ g.keyEdges)
    (hb : b ≠ g.root.key) :
    g.HasMember b := by
  obtain ⟨-, j, -, hj, -⟩ := mem_keyEdges_iff.mp he
  exact (mem_keys_iff_root_or_hasMember.mp (mem_keys_iff.mpr ⟨j, hj⟩)).resolve_left hb

theorem hasMember_source_of_mem_keyEdges
    (he : ⟨a, b, type⟩ ∈ g.keyEdges)
    (ha : a ≠ g.root.key) :
    g.HasMember a := by
  obtain ⟨i, -, hi, -, -⟩ := mem_keyEdges_iff.mp he
  exact (mem_keys_iff_root_or_hasMember.mp (mem_keys_iff.mpr ⟨i, hi⟩)).resolve_left ha

/-- A resource that is owned by another node than the cluster names it. -/
theorem head?_owners_of_ownerKey_eq
    {root : Text} {keys : List Text}
    (h : ownerKey root keys r = a)
    (ha : a ≠ root) :
    ∃ ref, r.owners.head? = some ref ∧ ref.key = a := by
  unfold ownerKey at h
  split at h
  · next ref href =>
    split at h
    · exact ⟨ref, href, h⟩
    · exact absurd h.symm ha
  · exact absurd h.symm ha

namespace PartOf

variable (h : g.PartOf g' others)
include h

theorem keys_subset : g.keys ⊆ g'.keys := by
  intro k hk
  rw [mem_keys_iff_root_or_hasMember] at hk ⊢
  rw [h.root_eq]
  refine hk.imp_right fun hmember => ?_
  obtain ⟨r, hr, rfl⟩ := hmember
  exact ⟨r, (h.mem_members_iff r).mpr (.inr hr), rfl⟩

/-- A key that belongs to none of the others is known with them just if it is known without. -/
theorem mem_keys_iff_of_ne (hk : ∀ s ∈ others, k ≠ s.key) : k ∈ g'.keys ↔ k ∈ g.keys := by
  constructor
  · intro hmem
    rw [mem_keys_iff_root_or_hasMember] at hmem ⊢
    rw [h.root_eq] at hmem
    refine hmem.imp_right fun hmember => ?_
    obtain ⟨r, hr, rfl⟩ := hmember
    obtain hother | hr := (h.mem_members_iff r).mp hr
    · exact absurd rfl (hk r hother)
    · exact ⟨r, hr, rfl⟩
  · exact fun hmem => h.keys_subset hmem

theorem mem_keys_iff_of_mem_relations
    (hr : r ∈ g.members)
    {ref : Ref}
    (href : ref ∈ r.relations) :
    ref.key ∈ g'.keys ↔ ref.key ∈ g.keys :=
  h.mem_keys_iff_of_ne fun s hs hkey => (h.apart r hr s hs).1 (.inr ⟨ref, href, hkey⟩)

theorem not_hasMember_of_mem_others (hr : r ∈ others) : ¬g.HasMember r.key :=
  fun hmember => h.fresh r hr (mem_keys_iff_root_or_hasMember.mpr (.inr hmember))

/-! ## Edges of the part -/

theorem ownerKey_eq (hr : r ∈ g.members) :
    ownerKey g.root.key g'.keys r = ownerKey g.root.key g.keys r := by
  unfold ownerKey
  split
  · next owner howner =>
    have hkeys : owner.key ∈ g'.keys ↔ owner.key ∈ g.keys :=
      h.mem_keys_iff_of_ne fun s hs hkey => (h.apart r hr s hs).2.2.1 ⟨owner, howner, hkey⟩
    simp only [hkeys]
  · rfl

theorem mem_declaredOwnerEdges_iff (hends : g.HasMember a ∨ g.HasMember b) :
    ⟨a, b, type⟩ ∈ declaredOwnerEdges g.root.key g'.keys g'.members ↔
      ⟨a, b, type⟩ ∈ declaredOwnerEdges g.root.key g.keys g.members := by
  rw [mem_declaredOwnerEdges, mem_declaredOwnerEdges]
  refine and_congr_right fun _ => ⟨fun hedge => ?_, fun hedge => ?_⟩
  · obtain ⟨r, hr, rfl, rfl⟩ := hedge
    obtain hother | hr := (h.mem_members_iff r).mp hr
    · -- another resource would name one of the part as its owner
      have ha := hends.resolve_right (h.not_hasMember_of_mem_others hother)
      obtain ⟨ref, href, hkey⟩ := head?_owners_of_ownerKey_eq rfl ha.ne_root
      obtain ⟨x, hx, hxkey⟩ := ha
      exact absurd ⟨ref, href, hkey.trans hxkey.symm⟩ (h.apart x hx r hother).2.2.2
    · exact ⟨r, hr, rfl, (h.ownerKey_eq hr).symm⟩
  · obtain ⟨r, hr, rfl, rfl⟩ := hedge
    exact ⟨r, (h.mem_members_iff r).mpr (.inr hr), rfl, h.ownerKey_eq hr⟩

/-- A reference of which one end is in the part has both ends there. -/
theorem mem_members_of_refers
    (hr : r ∈ g'.members)
    (hx : x ∈ g'.members)
    (hrefers : r.Refers x)
    (hends : g.HasMember r.key ∨ g.HasMember x.key) :
    r ∈ g.members ∧ x ∈ g.members := by
  obtain hr' | hr := (h.mem_members_iff r).mp hr
  · obtain hx' | hx := (h.mem_members_iff x).mp hx
    · exact absurd hends
        (not_or.mpr ⟨h.not_hasMember_of_mem_others hr', h.not_hasMember_of_mem_others hx'⟩)
    · exact absurd hrefers (h.apart x hx r hr').2.1
  · obtain hx' | hx := (h.mem_members_iff x).mp hx
    · exact absurd hrefers (h.apart r hr x hx').1
    · exact ⟨hr, hx⟩

theorem mem_declaredSelectorEdges_iff (hends : g.HasMember a ∨ g.HasMember b) :
    ⟨a, b, type⟩ ∈ declaredSelectorEdges g'.members ↔
      ⟨a, b, type⟩ ∈ declaredSelectorEdges g.members := by
  rw [mem_declaredSelectorEdges, mem_declaredSelectorEdges]
  refine and_congr_right fun _ => ⟨fun hedge => ?_, fun hedge => ?_⟩
  · obtain ⟨r, hr, x, hx, hselects, hkeys⟩ := hedge
    have hends' : g.HasMember r.key ∨ g.HasMember x.key := by
      obtain ⟨rfl, rfl⟩ | ⟨rfl, rfl⟩ := hkeys
      · exact hends
      · exact hends.symm
    obtain ⟨hr, hx⟩ := h.mem_members_of_refers hr hx (.inl hselects) hends'
    exact ⟨r, hr, x, hx, hselects, hkeys⟩
  · obtain ⟨r, hr, x, hx, hselects⟩ := hedge
    exact ⟨r, (h.mem_members_iff r).mpr (.inr hr), x, (h.mem_members_iff x).mpr (.inr hx), hselects⟩

theorem mem_declaredRelationEdges_iff (hends : g.HasMember a ∨ g.HasMember b) :
    ⟨a, b, type⟩ ∈ declaredRelationEdges g'.keys g'.members ↔
      ⟨a, b, type⟩ ∈ declaredRelationEdges g.keys g.members := by
  rw [mem_declaredRelationEdges, mem_declaredRelationEdges]
  refine and_congr_right fun _ => ⟨fun hedge => ?_, fun hedge => ?_⟩
  · obtain ⟨r, hr, ref, href, hkey, hkeys⟩ := hedge
    obtain hother | hr := (h.mem_members_iff r).mp hr
    · -- another resource would refer to one of the part
      have hends' : g.HasMember r.key ∨ g.HasMember ref.key := by
        obtain ⟨rfl, rfl⟩ | ⟨rfl, rfl⟩ := hkeys
        · exact hends
        · exact hends.symm
      obtain ⟨x, hx, hxkey⟩ := hends'.resolve_left (h.not_hasMember_of_mem_others hother)
      exact absurd (.inr ⟨ref, href, hxkey.symm⟩) (h.apart x hx r hother).2.1
    · exact ⟨r, hr, ref, href, (h.mem_keys_iff_of_mem_relations hr href).mp hkey, hkeys⟩
  · obtain ⟨r, hr, ref, href, hkey, hkeys⟩ := hedge
    exact ⟨r, (h.mem_members_iff r).mpr (.inr hr), ref, href, h.keys_subset hkey, hkeys⟩

/-- An edge at a resource of the part is there with the others just if it is there without. -/
theorem mem_keyEdges_iff (hends : g.HasMember a ∨ g.HasMember b) :
    ⟨a, b, type⟩ ∈ g'.keyEdges ↔ ⟨a, b, type⟩ ∈ g.keyEdges := by
  have hkeys : (g.root :: g'.members).map Resource.key = g'.keys := by
    rw [keys, nodes, h.root_eq]
  rw [keyEdges_eq h.linked', keyEdges_eq h.linked, h.root_eq]
  simp only [declaredEdges, List.mem_append]
  rw [hkeys]
  exact or_congr
    (or_congr (h.mem_declaredOwnerEdges_iff hends) (h.mem_declaredSelectorEdges_iff hends))
    (h.mem_declaredRelationEdges_iff hends)

end PartOf

end Lineage

end ClusterLineage
