import ClusterLineage.Lineage.View
import ClusterLineage.Proofs.Lineage.EdgeCounts
import ClusterLineage.Proofs.Lineage.SortedKeys
import ClusterLineage.Proofs.Ownership.Check

/-!
# The tree of a linked lineage

A tree shows each node by itself: its owner is looked up among the edges into it, what it owns and
what it references among the edges out of it.  The entries fit together all the same.  They are the
nodes, each once; an entry is listed below another just if it shows that one as its owner; and of
two entries either both reference the other or none does.
-/

namespace ClusterLineage

/-- The entry with one key shows another key as that of its owner. -/
def Tree.HasParent (t : Tree) (a b : Text) : Prop :=
  ∃ v ∈ t.nodes, v.key = a ∧ v.parent = some b

/-- The entries of a tree fit together: they come in the order of their keys, all but the root are
owned by an entry, owners and references agree with each other, and what an entry lists are entries
in the order of their keys. -/
structure Tree.Coherent (t : Tree) : Prop where
  ascending : Text.Ascending (t.nodes.map NodeView.key)
  root_listed : t.root ∈ t.nodes.map NodeView.key
  root_parent : ∀ v ∈ t.nodes, v.key = t.root → v.parent = none
  parent : ∀ v ∈ t.nodes, v.key ≠ t.root → ∃ p ∈ t.nodes, v.parent = some p.key
  children : ∀ p ∈ t.nodes, ∀ c ∈ t.nodes, c.key ∈ p.children ↔ c.parent = some p.key
  leaves : ∀ x ∈ t.nodes, ∀ y ∈ t.nodes, x.key ∈ y.leaves ↔ y.key ∈ x.leaves
  ascending_lists : ∀ v ∈ t.nodes, Text.Ascending v.children ∧ Text.Ascending v.leaves
  listed : ∀ v ∈ t.nodes, ∀ k, k ∈ v.children ∨ k ∈ v.leaves → k ∈ t.nodes.map NodeView.key

namespace Lineage

open Links Relation

variable {g : Lineage} {i j : Nat} {a b k : Text} {v : NodeView} {id : Option Text}

/-! ## Owners and references by key -/

theorem parentKey?_eq_some_iff (hg : g.isLinked = true) :
    g.parentKey? i = some a ↔ ∃ p, g.Owns p i ∧ g.keyAt? p = some a := by
  simp only [parentKey?, Option.bind_eq_some_iff, parent?_eq_some_iff hg]

/-- A node is listed below another one just if that one is its owner. -/
theorem mem_childKeys_iff
    (hg : g.isLinked = true)
    (ha : g.keyAt? i = some a)
    (hb : g.keyAt? j = some b) :
    b ∈ g.childKeys i ↔ g.parentKey? j = some a := by
  rw [childKeys, mem_sortedKeys_iff hb, mem_successors, parentKey?_eq_some_iff hg]
  constructor
  · intro howns
    exact ⟨i, howns, ha⟩
  · rintro ⟨p, howns, hp⟩
    obtain rfl := keyAt?_inj ha hp
    exact howns

theorem mem_leafKeys_comm
    (hg : g.isLinked = true)
    (ha : g.keyAt? i = some a)
    (hb : g.keyAt? j = some b) :
    b ∈ g.leafKeys i ↔ a ∈ g.leafKeys j := by
  rw [leafKeys, leafKeys, mem_sortedKeys_iff hb, mem_sortedKeys_iff ha, mem_successors,
    mem_successors, mem_references_comm hg]

theorem parentKey?_zero (hg : g.isLinked = true) : g.parentKey? 0 = none := by
  rw [Option.eq_none_iff_forall_ne_some]
  intro a ha
  obtain ⟨p, howns, -⟩ := (parentKey?_eq_some_iff hg).mp ha
  exact not_owns_zero hg p howns

theorem exists_parentKey?
    (hg : g.isLinked = true)
    (hi : i ≠ 0)
    (hsize : i < g.size) :
    ∃ p a, g.keyAt? p = some a ∧ g.parentKey? i = some a := by
  have howns := owns_declaredOwner hg hi hsize
  obtain ⟨a, ha⟩ := exists_keyAt? (declaredOwner_lt g i)
  exact ⟨_, a, ha, (parentKey?_eq_some_iff hg).mpr ⟨_, howns, ha⟩⟩

/-! ## Entries -/

theorem keyAt?_of_view? (h : g.view? i = some v) : g.keyAt? i = some v.key := by
  obtain ⟨r, hr, rfl⟩ := Option.map_eq_some_iff.mp h
  exact keyAt?_of_getElem? hr

theorem lists_of_view? (h : g.view? i = some v) :
    v.parent = g.parentKey? i ∧ v.children = g.childKeys i ∧ v.leaves = g.leafKeys i ∧
      v.isOrphan = g.isOrphan i := by
  obtain ⟨r, hr, rfl⟩ := Option.map_eq_some_iff.mp h
  exact ⟨rfl, rfl, rfl, rfl⟩

theorem exists_view? (h : g.keyAt? i = some k) : ∃ v, g.view? i = some v ∧ v.key = k := by
  obtain ⟨r, hr, rfl⟩ := keyAt?_eq_some_iff.mp h
  exact ⟨_, Option.map_eq_some_iff.mpr ⟨r, hr, rfl⟩, rfl⟩

theorem mem_tree_nodes : v ∈ (g.tree id).nodes ↔ ∃ i, g.view? i = some v := by
  rw [tree, Text.sortedBy, List.mem_mergeSort, List.mem_filterMap]
  constructor
  · rintro ⟨i, -, hi⟩
    exact ⟨i, hi⟩
  · rintro ⟨i, hi⟩
    exact ⟨i, List.mem_range.mpr (lt_size_of_keyAt? (keyAt?_of_view? hi)), hi⟩

/-- The keys of the entries are those of all nodes, in order. -/
theorem map_key_tree_nodes (g : Lineage) (id : Option Text) :
    (g.tree id).nodes.map NodeView.key = Text.sorted g.keys := by
  have hkeys : ((List.range g.size).filterMap g.view?).map NodeView.key = g.keys := by
    conv_rhs => rw [← filterMap_getElem?_range g.keys]
    rw [List.map_filterMap, keys, List.length_map]
    apply List.filterMap_congr
    intro i _
    rw [← keys, ← keyAt?_eq_getElem?, view?, Option.map_map]
    rfl
  rw [tree, Text.map_sortedBy, hkeys]

/-- The entries of a linked lineage fit together. -/
theorem coherent_tree
    (hg : g.isLinked = true)
    (id : Option Text) :
    (g.tree id).Coherent := by
  have hkeys : ∀ k, k ∈ (g.tree id).nodes.map NodeView.key ↔ ∃ i, g.keyAt? i = some k := by
    intro k
    rw [map_key_tree_nodes, Text.mem_sorted, mem_keys_iff]
  refine ⟨?_, ?_, ?_, ?_, ?_, ?_, ?_, ?_⟩
  · rw [map_key_tree_nodes]
    exact ascending_sorted_keys g
  · exact (hkeys _).mpr ⟨0, keyAt?_zero g⟩
  · intro v hv hroot
    obtain ⟨i, hi⟩ := mem_tree_nodes.mp hv
    have hzero : g.keyAt? 0 = some v.key := hroot ▸ keyAt?_zero g
    obtain rfl := keyAt?_inj (keyAt?_of_view? hi) hzero
    rw [(lists_of_view? hi).1, parentKey?_zero hg]
  · intro v hv hroot
    obtain ⟨i, hi⟩ := mem_tree_nodes.mp hv
    have hkey := keyAt?_of_view? hi
    have hne : i ≠ 0 := by
      rintro rfl
      exact hroot (Option.some.inj (hkey.symm.trans (keyAt?_zero g)))
    obtain ⟨p, a, ha, hparent⟩ := exists_parentKey? hg hne (lt_size_of_keyAt? hkey)
    obtain ⟨w, hw, rfl⟩ := exists_view? ha
    exact ⟨w, mem_tree_nodes.mpr ⟨p, hw⟩, (lists_of_view? hi).1.trans hparent⟩
  · intro p hp c hc
    obtain ⟨i, hi⟩ := mem_tree_nodes.mp hp
    obtain ⟨j, hj⟩ := mem_tree_nodes.mp hc
    rw [(lists_of_view? hi).2.1, (lists_of_view? hj).1]
    exact mem_childKeys_iff hg (keyAt?_of_view? hi) (keyAt?_of_view? hj)
  · intro x hx y hy
    obtain ⟨i, hi⟩ := mem_tree_nodes.mp hx
    obtain ⟨j, hj⟩ := mem_tree_nodes.mp hy
    rw [(lists_of_view? hi).2.2.1, (lists_of_view? hj).2.2.1]
    exact mem_leafKeys_comm hg (keyAt?_of_view? hj) (keyAt?_of_view? hi)
  · intro v hv
    obtain ⟨i, hi⟩ := mem_tree_nodes.mp hv
    rw [(lists_of_view? hi).2.1, (lists_of_view? hi).2.2.1]
    exact ⟨ascending_sortedKeys g (nodup_successors g i .owns),
      ascending_sortedKeys g (nodup_successors g i .references)⟩
  · intro v hv k hk
    obtain ⟨i, hi⟩ := mem_tree_nodes.mp hv
    rw [(lists_of_view? hi).2.1, (lists_of_view? hi).2.2.1, childKeys, leafKeys, mem_sortedKeys,
      mem_sortedKeys] at hk
    rcases hk with ⟨j, -, hj⟩ | ⟨j, -, hj⟩
    · exact (hkeys k).mpr ⟨j, hj⟩
    · exact (hkeys k).mpr ⟨j, hj⟩

/-! ## Orphans -/

theorem mem_orphans_iff : i ∈ g.links.orphans ↔ g.isOrphan i = true := by
  rw [isOrphan, List.contains_iff_mem]

theorem nodup_orphans (hg : g.isLinked = true) : g.links.orphans.Nodup := by
  rw [g.links_of_linked hg]
  have hnumbers : ((numbered g.members).map Prod.snd).Nodup := by
    rw [numbered, List.zipIdx_map_snd]
    exact List.nodup_range'
  exact hnumbers.sublist (List.filter_sublist.map Prod.snd)

/-- The entries that are shown as orphans are the orphans. -/
theorem map_key_filter_isOrphan
    (hg : g.isLinked = true)
    (id : Option Text) :
    ((g.tree id).nodes.filter NodeView.isOrphan).map NodeView.key = g.orphanKeys := by
  have hshown : Text.Ascending (((g.tree id).nodes.filter NodeView.isOrphan).map NodeView.key) :=
    (coherent_tree hg id).ascending.sublist (List.filter_sublist.map NodeView.key)
  apply hshown.eq_of_mem_iff (ascending_sortedKeys g (nodup_orphans hg))
  intro k
  rw [mem_sortedKeys, List.mem_map]
  constructor
  · rintro ⟨v, hv, rfl⟩
    obtain ⟨hv, horphan⟩ := List.mem_filter.mp hv
    obtain ⟨i, hi⟩ := mem_tree_nodes.mp hv
    rw [(lists_of_view? hi).2.2.2] at horphan
    exact ⟨i, mem_orphans_iff.mpr horphan, keyAt?_of_view? hi⟩
  · rintro ⟨i, horphan, hk⟩
    obtain ⟨v, hi, rfl⟩ := exists_view? hk
    refine ⟨v, List.mem_filter.mpr ⟨mem_tree_nodes.mpr ⟨i, hi⟩, ?_⟩, rfl⟩
    rw [(lists_of_view? hi).2.2.2]
    exact mem_orphans_iff.mp horphan

/-! ## The way to the root -/

theorem hasParent_of_owns
    (hg : g.isLinked = true)
    (howns : g.Owns i j)
    (ha : g.keyAt? i = some a)
    (hb : g.keyAt? j = some b) :
    (g.tree id).HasParent b a := by
  obtain ⟨v, hv, rfl⟩ := exists_view? hb
  refine ⟨v, mem_tree_nodes.mpr ⟨j, hv⟩, rfl, ?_⟩
  rw [(lists_of_view? hv).1]
  exact (parentKey?_eq_some_iff hg).mpr ⟨i, howns, ha⟩

/-- If ownership is a tree, the owners that the entries show lead to the root. -/
theorem hasParent_reaches_root
    (hg : g.isLinked = true)
    (htree : g.OwnershipTree)
    (id : Option Text) :
    ∀ v ∈ (g.tree id).nodes, ReflTransGen (g.tree id).HasParent v.key (g.tree id).root := by
  intro v hv
  obtain ⟨i, hi⟩ := mem_tree_nodes.mp hv
  have hkey := keyAt?_of_view? hi
  have hbelow := htree.below_root i (lt_size_of_keyAt? hkey)
  -- down the way from the cluster: each step down is an entry that shows the step above it
  generalize v.key = k at hkey
  clear hi hv
  induction hbelow generalizing k with
  | refl =>
    obtain rfl := Option.some.inj ((keyAt?_zero g).symm.trans hkey)
    exact .refl
  | @tail p c _ hstep ih =>
    obtain ⟨a, ha⟩ := exists_keyAt? (hstep.source_lt_size hg)
    exact .head (hasParent_of_owns hg hstep ha hkey) (ih a ha)

/-- The tree of a lineage is complete and fits together.  After resources have been added to a
cluster and linked, with or without a check of ownership, its entries are all nodes, the orphans
among them are those of the lineage, and what they show of each other agrees.  If linking has
checked the ownership, the owners lead from any entry to the root. -/
theorem tree_linkAll_complete
    (root : Resource)
    (rs : List Resource)
    (validate : Bool)
    (id : Option Text) :
    let g := linkAll root rs validate
    let t := g.tree id
    t.root = root.key ∧ t.nodes.map NodeView.key = Text.sorted g.keys ∧ t.Coherent ∧
      (t.nodes.filter NodeView.isOrphan).map NodeView.key = g.orphanKeys ∧
      (validate = true → (((ofRoot root).addAll rs).link validate).outcome = .ok () →
        ∀ v ∈ t.nodes, ReflTransGen t.HasParent v.key t.root) := by
  intro g t
  have hg : g.isLinked = true := isLinked_linkAll root rs validate
  refine ⟨?_, map_key_tree_nodes g id, coherent_tree hg id, map_key_filter_isOrphan hg id, ?_⟩
  · change g.root.key = root.key
    rw [root_linkAll]
  · intro hvalidate houtcome
    have hopen : ((ofRoot root).addAll rs).isLinked = false := isLinked_addAll _ _
    have hnone : g.cycleKeys? = none := by
      have hchecked := (outcome_link_eq_ok_iff hopen).mp houtcome
      rw [← linkAll_eq root rs validate] at hchecked
      exact hchecked.resolve_left (by simp [hvalidate])
    exact hasParent_reaches_root hg (ownershipTree_of_cycleKeys?_eq_none hg hnone) id

/-- From a pod that comes before its deployment the owners lead to the cluster. -/
theorem tree_linkAll_complete_pod_of_deployment :
    let root : Resource := { kind := "cluster", name := "prod" }
    let rs : List Resource :=
      [{ kind := "Pod", name := "web-1", owners := [{ kind := "deployment", name := "WEB" }],
          relations := [{ kind := "ConfigMap", name := "cfg" }] },
        { kind := "Deployment", name := "web" }, { kind := "ConfigMap", name := "cfg" }]
    let t := (linkAll root rs true).tree none
    (((ofRoot root).addAll rs).link true).outcome = .ok () ∧
      Text.ofString "pod/web-1" ∈ t.nodes.map NodeView.key ∧
      t.HasParent "pod/web-1" "deployment/web" ∧
      ReflTransGen t.HasParent "pod/web-1" "cluster/prod" := by
  intro root rs t
  have houtcome : (((ofRoot root).addAll rs).link true).outcome = .ok () := by decide +kernel
  have hkeyed : (linkAll root rs true).keyAt? 1 = some "pod/web-1" := by decide +kernel
  have howner : (linkAll root rs true).keyAt? 2 = some "deployment/web" := by decide +kernel
  have howns : (linkAll root rs true).Owns 2 1 := by
    unfold Owns
    decide +kernel
  have hroot : root.key = "cluster/prod" := by decide +kernel
  obtain ⟨htop, hkeys, -, -, hreach⟩ := tree_linkAll_complete root rs true none
  have hshown : Text.ofString "pod/web-1" ∈ t.nodes.map NodeView.key := by
    rw [hkeys, Text.mem_sorted, mem_keys_iff]
    exact ⟨1, hkeyed⟩
  obtain ⟨v, hv, hkey⟩ := List.mem_map.mp hshown
  have hway := hreach rfl houtcome v hv
  rw [hkey, htop, hroot] at hway
  exact ⟨houtcome, hshown,
    hasParent_of_owns (isLinked_linkAll root rs true) howns howner hkeyed, hway⟩

end Lineage

end ClusterLineage
