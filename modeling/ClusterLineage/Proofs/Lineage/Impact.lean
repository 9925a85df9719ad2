import ClusterLineage.Proofs.Lineage.EdgeCounts
import ClusterLineage.Proofs.Lineage.Selections
import ClusterLineage.Proofs.Lineage.SortedKeys

/-!
# What a change affects

The answer about a change to a resource is read off the edges: what references the changed one, and
what is owned, over any number of steps, by something that does.  The changed one may be among what
is owned, but this cuts nothing off that is owned through it.
-/

namespace ClusterLineage.Lineage

open Relation

variable {g : Lineage} {i j : Nat} {key k : Text}

/-- A resource references a node itself.  The cluster does not count, and neither does a node that
references itself. -/
def References (g : Lineage) (x i : Nat) : Prop :=
  (⟨x, i, .references⟩ : Edge) ∈ g.edges ∧ x ≠ i ∧ x ≠ 0

/-- A change to a node affects a resource for a reason: the resource references the node, or it does
not but is below another one that does. -/
def AffectedFor (g : Lineage) (i x : Nat) : ImpactReason → Prop
  | .references => g.References x i
  | .ownedByAffected =>
    x ≠ i ∧ x ≠ 0 ∧ ¬g.References x i ∧ ∃ y, g.References y i ∧ TransGen g.Owns y x

/-- The answer about a change to the node with a key lists what is affected, in ascending order of
the keys, and neither the changed one nor the cluster. -/
structure ImpactExact (g : Lineage) (key : Text) (i : Nat) : Prop where
  ascending : Text.Ascending ((g.impactOf key).map Impact.key)
  mem : ∀ k reason,
    ⟨k, reason⟩ ∈ g.impactOf key ↔ ∃ x, g.keyAt? x = some k ∧ g.AffectedFor i x reason
  not_self : Text.lower key ∉ (g.impactOf key).map Impact.key
  not_root : g.root.key ∉ (g.impactOf key).map Impact.key

theorem mem_impacts_iff
    (hg : g.isLinked = true)
    {reason : ImpactReason} :
    ⟨k, reason⟩ ∈ g.impacts i ↔ ∃ x, g.keyAt? x = some k ∧ g.AffectedFor i x reason := by
  rw [mem_impacts]
  refine exists_congr fun x => and_congr_right fun hx => ?_
  cases reason with
  | references => simp [AffectedFor, References, mem_referrers]
  | ownedByAffected =>
    simp [AffectedFor, References, mem_ownedBelow hg, mem_referrers, lt_size_of_keyAt? hx]

theorem AffectedFor.ne
    {x : Nat} {reason : ImpactReason}
    (h : g.AffectedFor i x reason) :
    x ≠ i ∧ x ≠ 0 := by
  cases reason with
  | references => exact h.2
  | ownedByAffected => exact ⟨h.1, h.2.1⟩

/-- No node is found twice. -/
theorem nodup_map_key_impacts (hg : g.isLinked = true) (i : Nat) :
    ((g.impacts i).map Impact.key).Nodup := by
  have hkeys : (g.impacts i).map Impact.key =
      (g.referrers i ++ g.ownedBelow i (g.referrers i)).filterMap g.keyAt? := by
    simp [impacts, Function.comp_def]
  rw [hkeys]
  apply nodup_filterMap_keyAt?
  refine List.Nodup.append (nodup_referrers g i) (nodup_ownedBelow g i _) ?_
  intro x hdirect hbelow
  exact ((mem_ownedBelow hg).mp hbelow).2.2.2.1 hdirect

theorem impactExact
    (hg : g.isLinked = true)
    (hkey : g.keyAt? i = some (Text.lower key)) :
    g.ImpactExact key i := by
  have himpact : g.impactOf key = Text.sortedBy Impact.key (g.impacts i) :=
    impactOf_eq_of_indexOf? (indexOf?_eq_some_iff.mpr hkey)
  have hmem : ∀ k reason, ⟨k, reason⟩ ∈ g.impactOf key ↔
      ∃ x, g.keyAt? x = some k ∧ g.AffectedFor i x reason := by
    intro k reason
    rw [himpact, Text.sortedBy, List.mem_mergeSort, mem_impacts_iff hg]
  have hlisted : ∀ k ∈ (g.impactOf key).map Impact.key,
      ∃ x, g.keyAt? x = some k ∧ x ≠ i ∧ x ≠ 0 := by
    intro k hk
    obtain ⟨⟨k, reason⟩, hentry, rfl⟩ := List.mem_map.mp hk
    obtain ⟨x, hx, haffected⟩ := (hmem k reason).mp hentry
    exact ⟨x, hx, haffected.ne⟩
  refine ⟨?_, hmem, ?_, ?_⟩
  · rw [himpact, Text.map_sortedBy]
    exact Text.ascending_sorted (nodup_map_key_impacts hg i)
  · intro hself
    obtain ⟨x, hx, hne, -⟩ := hlisted _ hself
    exact hne (keyAt?_inj hx hkey)
  · intro hroot
    obtain ⟨x, hx, -, hne⟩ := hlisted _ hroot
    exact hne (keyAt?_inj hx (keyAt?_zero g))

/-- References run both ways. -/
theorem references_comm
    (hg : g.isLinked = true)
    (hi : i ≠ 0)
    (hj : j ≠ 0) :
    g.References j i ↔ g.References i j := by
  rw [References, References, mem_references_comm hg, ne_comm, and_iff_left hi, and_iff_left hj]

/-- The impact of a change is exact.  In a linked lineage, with whatever cycles of ownership, the
answer to the key of a node, in any letter case, lists each resource that references the node, each
other one that is owned by such a resource, directly or not, and nothing else.  Of two resources one
is listed as referencing the other just if the other is listed as referencing it, and the answer to
an unknown key is empty. -/
theorem impactOf_exact (g : Lineage) (hg : g.isLinked = true) :
    (∀ key i, g.keyAt? i = some (Text.lower key) → g.ImpactExact key i) ∧
      (∀ a b i j, i ≠ 0 → j ≠ 0 → g.keyAt? i = some (Text.lower a) →
        g.keyAt? j = some (Text.lower b) →
          (⟨Text.lower b, .references⟩ ∈ g.impactOf a ↔
            ⟨Text.lower a, .references⟩ ∈ g.impactOf b)) ∧
      ∀ key, Text.lower key ∉ g.keys → g.impactOf key = [] := by
  refine ⟨fun key i hkey => impactExact hg hkey, ?_, ?_⟩
  · intro a b i j hi hj hia hjb
    have hlisted : ∀ {a b i j}, g.keyAt? i = some (Text.lower a) →
        g.keyAt? j = some (Text.lower b) →
          (⟨Text.lower b, .references⟩ ∈ g.impactOf a ↔ g.References j i) := by
      intro a b i j hia hjb
      rw [(impactExact hg hia).mem]
      constructor
      · rintro ⟨x, hx, hreferences⟩
        rwa [keyAt?_inj hx hjb] at hreferences
      · intro hreferences
        exact ⟨j, hjb, hreferences⟩
    rw [hlisted hia hjb, hlisted hjb hia, references_comm hg hi hj]
  · intro key hkey
    have hindex : g.indexOf? key = none := by
      rw [indexOf?, List.idxOf?_eq_none_iff]
      exact hkey
    simp only [impactOf, hindex]

/-- A pod names a config map and owns it, and the config map owns a second pod, which names it too,
and a third one.  So the third pod is affected by way of the config map itself, and the second one
only as what references it. -/
theorem impactOf_exact_inside_subtree :
    let g := linkAll { kind := "cluster", name := "prod" }
      [{ kind := "Pod", name := "a", relations := [{ kind := "ConfigMap", name := "cfg" }] },
        { kind := "ConfigMap", name := "cfg", owners := [{ kind := "Pod", name := "a" }] },
        { kind := "Pod", name := "b", owners := [{ kind := "ConfigMap", name := "cfg" }],
          relations := [{ kind := "ConfigMap", name := "cfg" }] },
        { kind := "Pod", name := "c", owners := [{ kind := "ConfigMap", name := "cfg" }] }] false
    g.isLinked = true ∧ g.keyAt? 2 = some (Text.lower "ConfigMap/cfg") ∧
      g.keyAt? 3 = some (Text.lower "Pod/b") ∧ Text.lower "pod/gone" ∉ g.keys ∧
      ⟨"pod/c", .ownedByAffected⟩ ∈ g.impactOf "ConfigMap/cfg" ∧
      ⟨"pod/b", .ownedByAffected⟩ ∉ g.impactOf "ConfigMap/cfg" ∧
      (⟨Text.lower "Pod/b", .references⟩ ∈ g.impactOf "ConfigMap/cfg" ↔
        ⟨Text.lower "ConfigMap/cfg", .references⟩ ∈ g.impactOf "Pod/b") ∧
      g.impactOf "pod/gone" = [] := by
  intro g
  have hmap : g.keyAt? 2 = some (Text.lower "ConfigMap/cfg") := by decide +kernel
  have hsecond : g.keyAt? 3 = some (Text.lower "Pod/b") := by decide +kernel
  have hthird : g.keyAt? 4 = some "pod/c" := by decide +kernel
  have hgone : Text.lower "pod/gone" ∉ g.keys := by decide +kernel
  have hnames : g.References 1 2 := ⟨by decide +kernel, by decide, by decide⟩
  have hnames' : g.References 3 2 := ⟨by decide +kernel, by decide, by decide⟩
  have hapart : ¬g.References 4 2 := fun h => absurd h.1 (by decide +kernel)
  have hdown : (⟨1, 2, .owns⟩ : Edge) ∈ g.edges := by decide +kernel
  have hdown' : (⟨2, 4, .owns⟩ : Edge) ∈ g.edges := by decide +kernel
  obtain ⟨hexact, hcomm, hunknown⟩ := impactOf_exact g rfl
  have hmem := (hexact "ConfigMap/cfg" 2 hmap).mem
  refine ⟨rfl, hmap, hsecond, hgone, ?_, ?_, ?_, hunknown _ hgone⟩
  · exact (hmem _ _).mpr ⟨4, hthird, by decide, by decide, hapart, 1, hnames, .tail (.single hdown)
      hdown'⟩
  · intro hlisted
    obtain ⟨x, hx, -, -, hnot, -⟩ := (hmem _ _).mp hlisted
    exact hnot (keyAt?_inj hx hsecond ▸ hnames')
  · exact hcomm _ _ 2 3 (by decide) (by decide) hmap hsecond

end ClusterLineage.Lineage
