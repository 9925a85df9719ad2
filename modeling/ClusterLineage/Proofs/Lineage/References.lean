import ClusterLineage.Proofs.Lineage.DeclaredEdges

/-!
# Which resources a lineage joins

Read as relations between resources, the edges of a linked lineage say this: two resources are
joined by a reference if one of them selects the other or names it, and a resource is owned by the
node that its first declared owner names, or else by the cluster.
-/

namespace ClusterLineage

namespace Resource

/-- The selectors of one resource reach another: there are some, the labels of the other carry all
of them, and the other holds no configuration. -/
def Selects (r target : Resource) : Prop :=
  ∃ selectors labels, r.selectors = some selectors ∧ target.labels = some labels ∧
    selectors ≠ [] ∧ (∀ p ∈ selectors, labels.lookup p.1 = some p.2) ∧
      target.isSensitive = false

/-- A resource declares a reference to another: it selects it and is not the same, or it names it.
-/
def Refers (r target : Resource) : Prop :=
  (r.key ≠ target.key ∧ r.Selects target) ∨ ∃ ref ∈ r.relations, ref.key = target.key

/-- A resource names another one as its owner: only the first declared owner counts. -/
def NamesOwner (r owner : Resource) : Prop :=
  ∃ ref, r.owners.head? = some ref ∧ ref.key = owner.key

theorem matchedBy_eq_true_iff {labels selectors : Labels} :
    labels.matchedBy selectors = true ↔ ∀ p ∈ selectors, labels.lookup p.1 = some p.2 := by
  rw [Labels.matchedBy, List.all_eq_true]
  constructor
  · intro h p hp
    simpa using h p hp
  · intro h p hp
    simpa using h p hp

/-- Labels that carry a selector are not empty, so nothing is lost by asking for labels first. -/
theorem selects_eq_true_iff {r target : Resource} :
    r.selects target = true ↔ r.Selects target := by
  unfold selects Selects
  split
  · next s selectors l labels hs hl =>
    rw [Bool.and_eq_true, matchedBy_eq_true_iff, Bool.not_eq_true']
    constructor
    · rintro ⟨hall, hplain⟩
      exact ⟨_, _, hs, hl, List.cons_ne_nil _ _, hall, hplain⟩
    · rintro ⟨selectors', labels', hs', hl', -, hall, hplain⟩
      obtain rfl := Option.some.inj (hs.symm.trans hs')
      obtain rfl := Option.some.inj (hl.symm.trans hl')
      exact ⟨hall, hplain⟩
  · next hnone =>
    constructor
    · intro h
      exact absurd h Bool.false_ne_true
    · rintro ⟨selectors, labels, hs, hl, hne, hall, -⟩
      obtain ⟨s, rest, rfl⟩ := List.exists_cons_of_ne_nil hne
      have hs' := hall s List.mem_cons_self
      cases labels with
      | nil => simp at hs'
      | cons l labels => exact absurd hl (hnone s rest l labels hs)

end Resource

namespace Links

variable {root x y : Resource} {members : List Resource} {keys : List Text} {a b : Text}

theorem mem_keysBothWays {c d : Text} {type : EdgeType} :
    (⟨a, b, type⟩ : KeyEdge) ∈ keysBothWays c d ↔
      type = .references ∧ ((a = c ∧ b = d) ∨ (a = d ∧ b = c)) := by
  simp only [keysBothWays, List.mem_cons, List.not_mem_nil, or_false, KeyEdge.mk.injEq]
  tauto

theorem mem_declaredOwnerEdges {type : EdgeType} :
    (⟨a, b, type⟩ : KeyEdge) ∈ declaredOwnerEdges root.key keys members ↔
      type = .owns ∧ ∃ r ∈ members, r.key = b ∧ ownerKey root.key keys r = a := by
  simp only [declaredOwnerEdges, List.mem_map, KeyEdge.mk.injEq]
  constructor
  · rintro ⟨r, hr, ha, hb, htype⟩
    exact ⟨htype.symm, r, hr, hb, ha⟩
  · rintro ⟨htype, r, hr, hb, ha⟩
    exact ⟨r, hr, ha, hb, htype.symm⟩

theorem mem_declaredSelectorEdges {type : EdgeType} :
    (⟨a, b, type⟩ : KeyEdge) ∈ declaredSelectorEdges members ↔
      type = .references ∧ ∃ r ∈ members, ∃ target ∈ members,
        (r.key ≠ target.key ∧ r.Selects target) ∧
          ((a = r.key ∧ b = target.key) ∨ (a = target.key ∧ b = r.key)) := by
  simp only [declaredSelectorEdges, List.mem_flatMap]
  constructor
  · rintro ⟨r, hr, target, htarget, h⟩
    split at h
    · next hsel =>
      obtain ⟨htype, hends⟩ := mem_keysBothWays.mp h
      exact ⟨htype, r, hr, target, htarget,
        ⟨hsel.1, Resource.selects_eq_true_iff.mp hsel.2⟩, hends⟩
    · simp at h
  · rintro ⟨htype, r, hr, target, htarget, ⟨hne, hsel⟩, hends⟩
    refine ⟨r, hr, target, htarget, ?_⟩
    rw [if_pos ⟨hne, Resource.selects_eq_true_iff.mpr hsel⟩]
    exact mem_keysBothWays.mpr ⟨htype, hends⟩

theorem mem_declaredRelationEdges {type : EdgeType} :
    (⟨a, b, type⟩ : KeyEdge) ∈ declaredRelationEdges keys members ↔
      type = .references ∧ ∃ r ∈ members, ∃ ref ∈ r.relations, ref.key ∈ keys ∧
        ((a = r.key ∧ b = ref.key) ∨ (a = ref.key ∧ b = r.key)) := by
  simp only [declaredRelationEdges, List.mem_flatMap]
  constructor
  · rintro ⟨r, hr, ref, href, h⟩
    split at h
    · next hkey =>
      obtain ⟨htype, hends⟩ := mem_keysBothWays.mp h
      exact ⟨htype, r, hr, ref, href, hkey, hends⟩
    · simp at h
  · rintro ⟨htype, r, hr, ref, href, hkey, hends⟩
    refine ⟨r, hr, ref, href, ?_⟩
    rw [if_pos hkey]
    exact mem_keysBothWays.mpr ⟨htype, hends⟩

end Links

namespace Lineage

open Links

variable {g : Lineage} {x y : Resource} {a b : Text}

/-- Two resources are joined by a reference if one of them declares one to the other. -/
theorem joined_references_iff
    (hx : x ∈ g.members)
    (hy : y ∈ g.members) :
    (⟨y.key, x.key, .references⟩ : KeyEdge) ∈ declaredEdges g.root g.members ↔
      y.Refers x ∨ x.Refers y := by
  have hxkey : x.key ∈ (g.root :: g.members).map Resource.key :=
    List.mem_cons_of_mem _ (List.mem_map_of_mem hx)
  have hykey : y.key ∈ (g.root :: g.members).map Resource.key :=
    List.mem_cons_of_mem _ (List.mem_map_of_mem hy)
  simp only [declaredEdges, List.mem_append, mem_declaredOwnerEdges, mem_declaredSelectorEdges,
    mem_declaredRelationEdges, Resource.Refers]
  constructor
  · rintro ((⟨htype, -⟩ | ⟨-, r, hr, target, htarget, hsel, hends⟩) |
      ⟨-, r, hr, ref, href, -, hends⟩)
    · cases htype
    · rcases hends with ⟨hyr, hxt⟩ | ⟨hyt, hxr⟩
      · obtain rfl := key_inj_of_mem_members hy hr hyr
        obtain rfl := key_inj_of_mem_members hx htarget hxt
        exact .inl (.inl hsel)
      · obtain rfl := key_inj_of_mem_members hy htarget hyt
        obtain rfl := key_inj_of_mem_members hx hr hxr
        exact .inr (.inl hsel)
    · rcases hends with ⟨hyr, hxref⟩ | ⟨hyref, hxr⟩
      · obtain rfl := key_inj_of_mem_members hy hr hyr
        exact .inl (.inr ⟨ref, href, hxref.symm⟩)
      · obtain rfl := key_inj_of_mem_members hx hr hxr
        exact .inr (.inr ⟨ref, href, hyref.symm⟩)
  · rintro ((hsel | ⟨ref, href, hkey⟩) | (hsel | ⟨ref, href, hkey⟩))
    · exact .inl (.inr ⟨trivial, y, hy, x, hx, hsel, .inl ⟨rfl, rfl⟩⟩)
    · exact .inr ⟨trivial, y, hy, ref, href, hkey ▸ hxkey, .inl ⟨rfl, hkey.symm⟩⟩
    · exact .inl (.inr ⟨trivial, x, hx, y, hy, hsel, .inr ⟨rfl, rfl⟩⟩)
    · exact .inr ⟨trivial, x, hx, ref, href, hkey ▸ hykey, .inr ⟨hkey.symm, rfl⟩⟩

/-- The owner of a resource is the one node with the key of its owner. -/
theorem joined_owns_iff :
    (⟨a, b, .owns⟩ : KeyEdge) ∈ declaredEdges g.root g.members ↔
      ∃ r ∈ g.members, r.key = b ∧ ownerKey g.root.key g.keys r = a := by
  simp only [declaredEdges, List.mem_append, mem_declaredOwnerEdges, mem_declaredSelectorEdges,
    mem_declaredRelationEdges]
  constructor
  · rintro ((⟨-, h⟩ | ⟨htype, -⟩) | ⟨htype, -⟩)
    · exact h
    · cases htype
    · cases htype
  · intro h
    exact .inl (.inl ⟨trivial, h⟩)

/-- A resource is owned by another exactly if it names it first among its owners. -/
theorem joined_owns_members_iff
    (hx : x ∈ g.members)
    (hy : y ∈ g.members) :
    (⟨y.key, x.key, .owns⟩ : KeyEdge) ∈ declaredEdges g.root g.members ↔ x.NamesOwner y := by
  rw [joined_owns_iff]
  have hykey : y.key ∈ g.keys := List.mem_cons_of_mem _ (List.mem_map_of_mem hy)
  constructor
  · rintro ⟨r, hr, hrx, howner⟩
    obtain rfl := key_inj_of_mem_members hr hx hrx
    unfold ownerKey at howner
    split at howner
    · next owner hfirst =>
      split at howner
      · exact ⟨owner, hfirst, howner⟩
      · exact absurd howner.symm (key_ne_root_of_mem_members hy)
    · exact absurd howner.symm (key_ne_root_of_mem_members hy)
  · rintro ⟨owner, hfirst, howner⟩
    refine ⟨x, hx, rfl, ?_⟩
    simp only [ownerKey, hfirst]
    rw [if_pos (howner ▸ hykey), howner]

end Lineage

end ClusterLineage
