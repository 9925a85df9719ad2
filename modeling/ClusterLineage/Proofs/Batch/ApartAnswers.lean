import ClusterLineage.Proofs.Batch.Apart

/-!
# Answers about one part of a batch

Paths from a resource stay in its part of the batch, so the answers about it rest on edges of the
part alone.  They are the same whether the other part is linked with it or not.
-/

namespace ClusterLineage

open Relation

/-- Two lineages answer a key of theirs alike. -/
structure SameAbout (g g' : Lineage) (key : Text) : Prop where
  view : ∃ v, (g.indexOf? key).bind g.view? = some v ∧ (g'.indexOf? key).bind g'.view? = some v
  missing : (g.indexOf? key).map (fun i => Unresolved.targetsByKind (g.unresolvedFrom i)) =
    (g'.indexOf? key).map fun j => Unresolved.targetsByKind (g'.unresolvedFrom j)
  related : g.relatedKeys key = g'.relatedKeys key
  impact : g.impactOf key = g'.impactOf key

namespace Lineage

open Links

variable {g g' : Lineage} {others : List Resource} {i j : Nat} {a b k : Text} {x : Resource}

theorem KeyOwns.hasMember
    (hg : g.isLinked = true)
    (howns : g.KeyOwns a b) :
    g.HasMember b := by
  obtain ⟨i, j, -, hj, he⟩ := mem_keyEdges_iff.mp howns
  have hj0 : j ≠ 0 := ((owns_iff hg).mp he).1
  exact hasMember_of_mem_keyEdges howns ((keyAt?_ne_root_iff hj).mpr hj0)

theorem KeyKin.hasMember (hkin : g.KeyKin a b) : g.HasMember b := by
  obtain ⟨-, hb, hdown | hup⟩ := hkin
  · exact hasMember_of_mem_keyEdges hdown hb
  · exact hasMember_source_of_mem_keyEdges hup hb

theorem HasMember.of_reflTransGen_keyKin
    (ha : g.HasMember a)
    (hpath : ReflTransGen g.KeyKin a b) :
    g.HasMember b := by
  obtain rfl | ⟨c, -, hkin⟩ := hpath.cases_tail
  · exact ha
  · exact hkin.hasMember

theorem KeyAffected.hasMember (haffected : g.KeyAffected a k) : g.HasMember k :=
  hasMember_source_of_mem_keyEdges haffected.1 haffected.2.2

namespace PartOf

variable (h : g.PartOf g' others)
include h

/-! ## Paths -/

theorem keyOwns_iff (ha : g.HasMember a) : g'.KeyOwns a b ↔ g.KeyOwns a b :=
  h.mem_keyEdges_iff (.inl ha)

theorem keyRefers_iff (hends : g.HasMember a ∨ g.HasMember b) :
    g'.KeyRefers a b ↔ g.KeyRefers a b :=
  h.mem_keyEdges_iff hends

theorem keyKin_iff (ha : g.HasMember a) : g'.KeyKin a b ↔ g.KeyKin a b := by
  have hdown : g'.KeyOwns a b ↔ g.KeyOwns a b := h.mem_keyEdges_iff (.inl ha)
  have hup : g'.KeyOwns b a ↔ g.KeyOwns b a := h.mem_keyEdges_iff (.inr ha)
  rw [KeyKin, KeyKin, h.root_eq, hdown, hup]

theorem reflTransGen_keyOwns_iff (ha : g.HasMember a) :
    ReflTransGen g'.KeyOwns a b ↔ ReflTransGen g.KeyOwns a b := by
  constructor
  · intro hpath
    refine (reflTransGen_of_agree (fun c d hc hcd => ?_) ha hpath).2
    have howns := (h.keyOwns_iff hc).mp hcd
    exact ⟨howns.hasMember h.linked, howns⟩
  · intro hpath
    refine (reflTransGen_of_agree (fun c d hc hcd => ?_) ha hpath).2
    exact ⟨hcd.hasMember h.linked, (h.keyOwns_iff hc).mpr hcd⟩

theorem reflTransGen_keyKin_iff (ha : g.HasMember a) :
    ReflTransGen g'.KeyKin a b ↔ ReflTransGen g.KeyKin a b := by
  constructor
  · intro hpath
    refine (reflTransGen_of_agree (fun c d hc hcd => ?_) ha hpath).2
    have hkin := (h.keyKin_iff hc).mp hcd
    exact ⟨hkin.hasMember, hkin⟩
  · intro hpath
    refine (reflTransGen_of_agree (fun c d hc hcd => ?_) ha hpath).2
    exact ⟨hcd.hasMember, (h.keyKin_iff hc).mpr hcd⟩

theorem keyAffected_iff (ha : g.HasMember a) : g'.KeyAffected a k ↔ g.KeyAffected a k := by
  rw [KeyAffected, KeyAffected, h.keyRefers_iff (.inr ha), h.root_eq]

theorem keyOwnedByAffected_iff (ha : g.HasMember a) :
    g'.KeyOwnedByAffected a k ↔ g.KeyOwnedByAffected a k := by
  rw [KeyOwnedByAffected, KeyOwnedByAffected, h.root_eq]
  simp only [h.keyAffected_iff ha]
  refine and_congr_right fun _ => and_congr_right fun _ => and_congr_right fun _ => ?_
  refine exists_congr fun b => and_congr_right fun hb => ?_
  exact h.reflTransGen_keyOwns_iff hb.hasMember

/-! ## Verdicts -/

/-- All that a verdict on a resource rests on is declared in its part. -/
theorem declaredFacts_eq (hx : x ∈ g.members) :
    declaredFacts g'.root g'.members x = declaredFacts g.root g.members x := by
  apply Orphan.Facts.ext
  · funext k
    apply propext
    constructor
    · intro hk
      obtain ⟨y, hy, hrefers, hkind⟩ := hk
      refine ⟨y, ((h.mem_members_iff y).mp hy).resolve_left fun hother => ?_, hrefers, hkind⟩
      exact hrefers.elim (h.apart x hx y hother).2.1 (h.apart x hx y hother).1
    · intro hk
      obtain ⟨y, hy, hrefers⟩ := hk
      exact ⟨y, (h.mem_members_iff y).mpr (.inr hy), hrefers⟩
  · apply propext
    constructor
    · intro howned
      obtain ⟨y, hy, howner⟩ := howned
      refine ⟨y, ((h.mem_members_iff y).mp hy).resolve_left fun hother => ?_, howner⟩
      exact (h.apart x hx y hother).2.2.1 howner
    · intro howned
      obtain ⟨y, hy, howner⟩ := howned
      exact ⟨y, (h.mem_members_iff y).mpr (.inr hy), howner⟩
  · funext k
    apply propext
    refine exists_congr fun ref => and_congr_right fun href => and_congr_left fun _ => ?_
    have hkeys := not_congr (h.mem_keys_iff_of_mem_relations hx href)
    simpa only [keys, nodes, List.mem_map, not_exists, not_and] using hkeys
  · rfl

theorem isOrphan_eq
    (hi : g.nodes[i]? = some x)
    (hj : g'.nodes[j]? = some x)
    (hx : x ∈ g.members) :
    g'.isOrphan j = g.isOrphan i := by
  have hi0 : i ≠ 0 := (keyAt?_ne_root_iff (keyAt?_of_getElem? hi)).mp (key_ne_root_of_mem_members hx)
  have hj0 : j ≠ 0 := (keyAt?_ne_root_iff (keyAt?_of_getElem? hj)).mp
    (h.root_eq ▸ key_ne_root_of_mem_members hx)
  rw [Bool.eq_iff_iff, isOrphan_iff h.linked' hj0 hj, isOrphan_iff h.linked hi0 hi,
    h.declaredFacts_eq hx]

theorem unresolvedOf_eq (hx : x ∈ g.members) : unresolvedOf g'.keys x = unresolvedOf g.keys x := by
  rw [Links.unresolvedOf_eq, Links.unresolvedOf_eq]
  congr 1
  apply List.filter_congr
  intro ref href
  rw [decide_eq_decide, h.mem_keys_iff_of_mem_relations hx href]

/-! ## Answers -/

theorem view?_eq
    (hi : g.nodes[i]? = some x)
    (hj : g'.nodes[j]? = some x)
    (hx : x ∈ g.members) :
    g'.view? j = g.view? i := by
  have hkey := keyAt?_of_getElem? hi
  have hkey' := keyAt?_of_getElem? hj
  have hmember : g.HasMember x.key := ⟨x, hx, rfl⟩
  have hlists (type : EdgeType) :
      g'.sortedKeys (g'.successors j type) = g.sortedKeys (g.successors i type) := by
    apply (ascending_sortedKeys g' (nodup_successors g' j type)).eq_of_mem_iff
      (ascending_sortedKeys g (nodup_successors g i type))
    intro k
    rw [mem_sortedKeys_successors hkey', mem_sortedKeys_successors hkey,
      h.mem_keyEdges_iff (.inl hmember)]
  have hparent : g'.parentKey? j = g.parentKey? i := by
    apply Option.ext
    intro k
    rw [parentKey?_eq_some_iff_keyOwns h.linked' hkey', parentKey?_eq_some_iff_keyOwns h.linked hkey]
    exact h.mem_keyEdges_iff (.inr hmember)
  simp only [view?, childKeys, leafKeys, hi, hj, hparent, hlists, h.isOrphan_eq hi hj hx]

theorem relatedKeys_eq
    (hi : g.nodes[i]? = some x)
    (hj : g'.nodes[j]? = some x)
    (hx : x ∈ g.members) :
    g'.relatedKeys x.key = g.relatedKeys x.key := by
  have hmember : g.HasMember (Text.lower x.key) := ⟨x, hx, x.lower_key.symm⟩
  have hkey : g.keyAt? i = some (Text.lower x.key) := by
    rw [x.lower_key, keyAt?_of_getElem? hi]
  have hkey' : g'.keyAt? j = some (Text.lower x.key) := by
    rw [x.lower_key, keyAt?_of_getElem? hj]
  have hroot := hmember.ne_root
  have hroot' : Text.lower x.key ≠ g'.root.key := h.root_eq ▸ hroot
  apply (answersRelated h.linked' ((keyAt?_ne_root_iff hkey').mp hroot') hkey').ascending.eq_of_mem_iff
    (answersRelated h.linked ((keyAt?_ne_root_iff hkey).mp hroot) hkey).ascending
  intro k
  rw [mem_relatedKeys_iff h.linked' hkey' hroot', mem_relatedKeys_iff h.linked hkey hroot, h.root_eq]
  refine and_congr_right fun _ => ?_
  refine or_congr (h.reflTransGen_keyKin_iff hmember) (exists_congr fun b => ?_)
  rw [h.reflTransGen_keyKin_iff hmember]
  refine and_congr_right fun hpath => ?_
  have hb := hmember.of_reflTransGen_keyKin hpath
  exact or_congr (h.keyRefers_iff (.inl hb)) (h.keyRefers_iff (.inr hb))

theorem impactOf_eq
    (hi : g.nodes[i]? = some x)
    (hj : g'.nodes[j]? = some x)
    (hx : x ∈ g.members) :
    g'.impactOf x.key = g.impactOf x.key := by
  have hmember : g.HasMember x.key := ⟨x, hx, rfl⟩
  have hkey := keyAt?_of_getElem? hi
  have hkey' := keyAt?_of_getElem? hj
  rw [impactOf_eq_of_indexOf? (indexOf?_of_keyAt? hkey'),
    impactOf_eq_of_indexOf? (indexOf?_of_keyAt? hkey)]
  apply Text.sortedBy_eq_of_perm
  · have hdirect : ((g'.referrers j).filterMap g'.keyAt?).Perm
        ((g.referrers i).filterMap g.keyAt?) := by
      rw [List.perm_ext_iff_of_nodup (nodup_filterMap_keyAt? g' (nodup_referrers g' j))
        (nodup_filterMap_keyAt? g (nodup_referrers g i))]
      intro k
      rw [mem_filterMap_referrers hkey', mem_filterMap_referrers hkey, h.keyAffected_iff hmember]
    have hbelow : ((g'.ownedBelow j (g'.referrers j)).filterMap g'.keyAt?).Perm
        ((g.ownedBelow i (g.referrers i)).filterMap g.keyAt?) := by
      rw [List.perm_ext_iff_of_nodup (nodup_filterMap_keyAt? g' (nodup_ownedBelow g' j _))
        (nodup_filterMap_keyAt? g (nodup_ownedBelow g i _))]
      intro k
      rw [mem_filterMap_ownedBelow h.linked' hkey', mem_filterMap_ownedBelow h.linked hkey,
        h.keyOwnedByAffected_iff hmember]
    exact (hdirect.map _).append (hbelow.map _)
  · intro c hc d hd hcd
    exact eq_of_mem_impacts h.linked' hc hd hcd

theorem sameAbout (hx : x ∈ g.members) : SameAbout g g' x.key := by
  obtain ⟨i, hi0, hi⟩ := Lineage.mem_members_iff.mp hx
  obtain ⟨j, hj0, hj⟩ := Lineage.mem_members_iff.mp ((h.mem_members_iff x).mpr (.inr hx))
  have hindex := indexOf?_of_keyAt? (keyAt?_of_getElem? hi)
  have hindex' := indexOf?_of_keyAt? (keyAt?_of_getElem? hj)
  constructor
  · obtain ⟨v, hv, -⟩ := exists_view? (keyAt?_of_getElem? hi)
    rw [hindex, hindex', Option.bind_some, Option.bind_some, h.view?_eq hi hj hx]
    exact ⟨v, hv, hv⟩
  · rw [hindex, hindex', Option.map_some, Option.map_some, unresolvedFrom_eq h.linked hi0 hi,
      unresolvedFrom_eq h.linked' hj0 hj, h.unresolvedOf_eq hx]
  · exact (h.relatedKeys_eq hi hj hx).symm
  · exact (h.impactOf_eq hi hj hx).symm

end PartOf

/-- Resources with different keys that differ from that of the cluster are all taken in. -/
theorem members_linkAll_of_nodup
    {root : Resource} {rs : List Resource}
    (hkeys : ((root :: rs).map Resource.key).Nodup)
    (validate : Bool) :
    (linkAll root rs validate).members = rs := by
  rw [List.map_cons, List.nodup_cons] at hkeys
  rw [members_linkAll, accepted_eq_filter hkeys.2, List.filter_eq_self]
  intro r hr
  rw [decide_eq_true_eq, List.mem_singleton]
  exact fun hroot => hkeys.1 (hroot ▸ List.mem_map_of_mem hr)

theorem nodup_of_inserted
    {root : Resource} {part others all : List Resource}
    (hall : Inserted others part all)
    (hkeys : ((root :: all).map Resource.key).Nodup) :
    ((root :: part).map Resource.key).Nodup ∧
      ∀ r ∈ others, r.key ∉ (root :: part).map Resource.key := by
  have hperm := (hall.perm.cons root).trans List.perm_middle.symm
  have hsplit := (hperm.map Resource.key).nodup_iff.mp hkeys
  rw [List.map_append] at hsplit
  obtain ⟨-, hpart, hdisjoint⟩ := List.nodup_append.mp hsplit
  exact ⟨hpart, fun r hr hkey => hdisjoint _ (List.mem_map_of_mem hr) _ hkey rfl⟩

theorem partOf_linkAll
    {root : Resource} {part others all : List Resource}
    (hall : Inserted others part all)
    (hkeys : ((root :: all).map Resource.key).Nodup)
    (hapart : Apart part others) :
    (linkAll root part false).PartOf (linkAll root all false) others := by
  obtain ⟨hpart, hfresh⟩ := nodup_of_inserted hall hkeys
  have hmembers := members_linkAll_of_nodup hpart false
  refine ⟨isLinked_linkAll _ _ _, isLinked_linkAll _ _ _, ?_, ?_, ?_, ?_⟩
  · rw [root_linkAll, root_linkAll]
  · intro r
    rw [members_linkAll_of_nodup hkeys, hmembers, hall.perm.mem_iff, List.mem_append]
  · rwa [keys, nodes, root_linkAll, hmembers]
  · rwa [hmembers]

/-- Parts of a batch that are apart do not influence each other.  If no resource of one part refers
to one of the other or names it as its owner, in either direction, then the answers about a resource
are the same whether the other part is linked with its own or not.  It does not matter how the parts
are mixed, nor that resources of both are owned by the cluster and reference it. -/
theorem linkAll_apart
    (root : Resource)
    (part others all : List Resource)
    (hall : Inserted others part all)
    (hkeys : ((root :: all).map Resource.key).Nodup)
    (hapart : Apart part others) :
    ∀ x ∈ part, SameAbout (linkAll root part false) (linkAll root all false) x.key := by
  intro x hx
  have hmembers := members_linkAll_of_nodup (nodup_of_inserted hall hkeys).1 false
  exact (partOf_linkAll hall hkeys hapart).sameAbout (hmembers.symm ▸ hx)

/-- A pod of a deployment, and a service with its pod between them, all of which reference the
cluster. -/
theorem linkAll_apart_around_cluster :
    let root : Resource := { kind := "cluster", name := "prod" }
    let up : Ref := { kind := "Cluster", name := "prod" }
    let deployment : Resource := { kind := "Deployment", name := "web", relations := [up] }
    let pod : Resource :=
      { kind := "Pod", name := "web-1", labels := some [("app", "web")], relations := [up]
        owners := [{ kind := "deployment", name := "web" }, { kind := "Service", name := "db" }] }
    let service : Resource :=
      { kind := "Service", name := "db", selectors := some [("app", "db")], relations := [up] }
    let backend : Resource :=
      { kind := "Pod", name := "db-1", labels := some [("app", "db")], relations := [up] }
    let all := [service, deployment, backend, pod]
    Inserted [service, backend] [deployment, pod] all ∧
      ((root :: all).map Resource.key).Nodup ∧
      Apart [deployment, pod] [service, backend] ∧
      (∀ r ∈ all, ∃ ref ∈ r.relations, ref.key = root.key) ∧
      ∀ x ∈ [deployment, pod],
        SameAbout (linkAll root [deployment, pod] false) (linkAll root all false) x.key := by
  intro root up deployment pod service backend all
  have hall : Inserted [service, backend] [deployment, pod] all :=
    .added service (.old deployment (.added backend (.old pod .nil)))
  have hkeys : ((root :: all).map Resource.key).Nodup := by decide +kernel
  have hapart : Apart [deployment, pod] [service, backend] := by decide +kernel
  exact ⟨hall, hkeys, hapart, by decide +kernel,
    linkAll_apart root [deployment, pod] [service, backend] all hall hkeys hapart⟩

end Lineage

end ClusterLineage
