import ClusterLineage.Proofs.Batch.Reordered
import ClusterLineage.Proofs.Lineage.TreeView
import ClusterLineage.Proofs.Unresolved

/-!
# Views of the same resources in another order

The tree, the orphans and the report of references that lead nowhere do not depend on the order of
the resources.
-/

namespace ClusterLineage

/-- Of resources with different keys only one has the key of each. -/
theorem filter_key_eq_singleton
    {members : List Resource}
    (hkeys : (members.map Resource.key).Nodup)
    {r : Resource}
    (hr : r ∈ members) :
    (members.filter fun s => s.key == r.key) = [r] := by
  have hnodup := (List.Nodup.of_map _ hkeys).filter fun s => s.key == r.key
  apply List.perm_singleton.mp
  rw [List.perm_ext_iff_of_nodup hnodup (List.nodup_singleton r)]
  intro s
  rw [List.mem_filter, beq_iff_eq, List.mem_singleton]
  constructor
  · rintro ⟨hs, hsr⟩
    exact List.inj_on_of_nodup_map hkeys hs hr hsr
  · rintro rfl
    exact ⟨hr, rfl⟩

/-- Of resources with different keys one has a given key. -/
theorem filter_key_eq_of_perm
    {members members' : List Resource}
    (hperm : members.Perm members')
    (hkeys : (members.map Resource.key).Nodup)
    (k : Text) :
    (members.filter fun r => r.key == k) = members'.filter fun r => r.key == k := by
  by_cases hk : ∃ r ∈ members, r.key = k
  · obtain ⟨r, hr, rfl⟩ := hk
    have hkeys' := (hperm.map Resource.key).nodup_iff.mp hkeys
    rw [filter_key_eq_singleton hkeys hr, filter_key_eq_singleton hkeys' (hperm.mem_iff.mp hr)]
  · have hnone : (members.filter fun r => r.key == k) = [] := by
      rw [List.filter_eq_nil_iff]
      intro r hr hrk
      exact hk ⟨r, hr, beq_iff_eq.mp hrk⟩
    have hnone' := hperm.filter fun r => r.key == k
    rw [hnone] at hnone' ⊢
    exact hnone'.nil_eq

namespace Lineage

open Links

variable {g g' : Lineage} {i j : Nat} {s s' : Selection}

/-- The references that lead nowhere, of the resource with one key. -/
theorem filter_source_unresolved
    (hg : g.isLinked = true)
    (k : Text) :
    (g.unresolved.filter fun u => u.source == k) =
      (g.members.filter fun r => r.key == k).flatMap (unresolvedOf g.keys) := by
  rw [unresolved_eq hg, List.filter_flatMap, ← flatMap_filter_eq (q := fun r => r.key == k)]
  · apply List.flatMap_congr
    intro r hr
    rw [List.filter_eq_self]
    intro u hu
    rw [source_of_mem_unresolvedOf hu]
    exact (List.mem_filter.mp hr).2
  · intro r _ hrk
    rw [List.filter_eq_nil_iff]
    intro u hu
    rw [source_of_mem_unresolvedOf hu, hrk]
    exact Bool.false_ne_true

namespace Reordered

variable (h : g.Reordered g')
include h

/-- A key is known to both or to neither. -/
theorem indexOf?_cases (key : Text) :
    (g.indexOf? key = none ∧ g'.indexOf? key = none) ∨
      ∃ i j, g.indexOf? key = some i ∧ g'.indexOf? key = some j ∧ SameNode g g' i j := by
  cases hi : g.indexOf? key with
  | none =>
    refine .inl ⟨rfl, ?_⟩
    rw [Option.eq_none_iff_forall_ne_some]
    intro j hj
    have hkey := h.mem_keys_iff.mpr (Lineage.mem_keys_iff.mpr ⟨j, indexOf?_eq_some_iff.mp hj⟩)
    obtain ⟨i, hi'⟩ := Lineage.mem_keys_iff.mp hkey
    rw [indexOf?_eq_some_iff.mpr hi'] at hi
    cases hi
  | some i =>
    have hkey := indexOf?_eq_some_iff.mp hi
    obtain ⟨j, hij⟩ := h.exists_sameNode (lt_size_of_keyAt? hkey)
    have hj := hij.keyAt?_eq.symm.trans hkey
    exact .inr ⟨i, j, rfl, indexOf?_eq_some_iff.mpr hj, hij⟩

theorem parentKey?_imp
    (hij : SameNode g g' i j)
    {a : Text}
    (ha : g.parentKey? i = some a) :
    g'.parentKey? j = some a := by
  obtain ⟨p, hp, hpa⟩ := (parentKey?_eq_some_iff h.linked).mp ha
  obtain ⟨q, hpq⟩ := h.exists_sameNode (hp.source_lt_size h.linked)
  exact (parentKey?_eq_some_iff h.linked').mpr
    ⟨q, (h.mem_edges_iff hpq hij).mp hp, hpq.keyAt?_eq.symm.trans hpa⟩

theorem parentKey?_eq (hij : SameNode g g' i j) : g.parentKey? i = g'.parentKey? j := by
  apply Option.ext
  intro a
  exact ⟨h.parentKey?_imp hij, h.symm.parentKey?_imp hij.symm⟩

theorem view?_eq (hij : SameNode g g' i j) : g.view? i = g'.view? j := by
  have hchildren : g.childKeys i = g'.childKeys j :=
    h.sortedKeys_eq (nodup_successors g i .owns) (nodup_successors g' j .owns)
      (h.successors_sameNodes hij .owns)
  have hleaves : g.leafKeys i = g'.leafKeys j :=
    h.sortedKeys_eq (nodup_successors g i .references) (nodup_successors g' j .references)
      (h.successors_sameNodes hij .references)
  simp only [view?, h.getElem?_eq hij, h.parentKey?_eq hij, hchildren, hleaves, h.isOrphan_eq hij]

theorem mem_views
    {v : NodeView}
    (hv : v ∈ (List.range g.size).filterMap g.view?) :
    v ∈ (List.range g'.size).filterMap g'.view? := by
  obtain ⟨i, hi, hiv⟩ := List.mem_filterMap.mp hv
  obtain ⟨j, hij⟩ := h.exists_sameNode (List.mem_range.mp hi)
  have hjv : g'.view? j = some v := (h.view?_eq hij).symm.trans hiv
  exact List.mem_filterMap.mpr
    ⟨j, List.mem_range.mpr (lt_size_of_keyAt? (keyAt?_of_view? hjv)), hjv⟩

/-- The tree is the same. -/
theorem tree_eq (id : Option Text) : g.tree id = g'.tree id := by
  have hnodup (g : Lineage) : ((List.range g.size).filterMap g.view?).Nodup := by
    apply List.nodup_range.filterMap
    intro i i' v hi hi'
    exact keyAt?_inj (keyAt?_of_view? hi) (keyAt?_of_view? hi')
  have hviews : Text.sortedBy NodeView.key ((List.range g.size).filterMap g.view?) =
      Text.sortedBy NodeView.key ((List.range g'.size).filterMap g'.view?) := by
    apply Text.sortedBy_eq_of_perm
    · rw [List.perm_ext_iff_of_nodup (hnodup g) (hnodup g')]
      intro v
      exact ⟨h.mem_views, h.symm.mem_views⟩
    · intro v hv w hw hkey
      obtain ⟨i, -, hiv⟩ := List.mem_filterMap.mp hv
      obtain ⟨i', -, hiw⟩ := List.mem_filterMap.mp hw
      have hi := keyAt?_of_view? hiv
      rw [hkey] at hi
      obtain rfl := keyAt?_inj hi (keyAt?_of_view? hiw)
      exact Option.some.inj (hiv.symm.trans hiw)
  rw [tree, tree, hviews, h.root_eq]

/-- The orphans are the same. -/
theorem orphanKeys_eq : g.orphanKeys = g'.orphanKeys := by
  apply h.sortedKeys_eq (nodup_orphans h.linked) (nodup_orphans h.linked')
  intro i j hij
  rw [mem_orphans_iff, mem_orphans_iff, h.isOrphan_eq hij]

theorem filter_source_unresolved_eq (k : Text) :
    (g.unresolved.filter fun u => u.source == k) =
      g'.unresolved.filter fun u => u.source == k := by
  have hkeys : (g.members.map Resource.key).Nodup := (List.nodup_cons.mp g.nodup_keys).2
  rw [filter_source_unresolved h.linked, filter_source_unresolved h.linked',
    filter_key_eq_of_perm h.members_perm hkeys]
  apply List.flatMap_congr
  intro r _
  exact unresolvedOf_congr (fun _ => h.mem_keys_iff) r

/-- The references of a resource that lead nowhere are the same. -/
theorem unresolvedFrom_eq (hij : SameNode g g' i j) : g.unresolvedFrom i = g'.unresolvedFrom j := by
  rw [unresolvedFrom, unresolvedFrom, hij.keyAt?_eq]
  cases g'.keyAt? j with
  | none => rfl
  | some k => exact h.filter_source_unresolved_eq k

theorem unresolved_perm : g.unresolved.Perm g'.unresolved := by
  rw [unresolved_eq h.linked, unresolved_eq h.linked']
  have hkeys : unresolvedOf g.keys = unresolvedOf g'.keys := by
    funext r
    exact unresolvedOf_congr (fun _ => h.mem_keys_iff) r
  rw [hkeys]
  exact h.members_perm.flatMap_right _

theorem report_eq : Unresolved.report g.unresolved = Unresolved.report g'.unresolved :=
  Unresolved.report_eq_of_perm h.unresolved_perm h.filter_source_unresolved_eq

end Reordered

end Lineage

end ClusterLineage
