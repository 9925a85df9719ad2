import ClusterLineage.Proofs.Lineage.References
import ClusterLineage.Proofs.Lineage.Session
import ClusterLineage.Proofs.Orphan.Facts

/-!
# Orphans, judged from the batch

Linking judges a resource from the edges that it has wired.  The verdict can be read off the batch
without any of them: `declaredFacts` says who references a resource, whether a resource owns it, and
what it refers to in vain, in terms of what the resources declare.
-/

namespace ClusterLineage

/-- The facts about a resource that follow from what a cluster and its resources declare.  Only
resources count as referrers and owners, not the cluster, and a reference is in vain if no node at
all has its key. -/
def declaredFacts (root : Resource) (members : List Resource) (x : Resource) : Orphan.Facts where
  referrers k := ∃ y ∈ members, (y.Refers x ∨ x.Refers y) ∧ y.kind = k
  owned := ∃ y ∈ members, x.NamesOwner y
  missing k := ∃ ref ∈ x.relations,
    (∀ y ∈ root :: members, y.key ≠ ref.key) ∧ Kind.canonical ref.kind = k
  token := x.resourceType = some Orphan.serviceAccountTokenType ∨
    ∃ labels, x.labels = some labels ∧ ∃ p ∈ labels, p.1 = Orphan.serviceAccountNameLabel

theorem Links.mem_unresolvedOf_kind {keys : List Text} {x : Resource} {k : Text} :
    k ∈ (unresolvedOf keys x).map Unresolved.kind ↔
      ∃ ref ∈ x.relations, ref.key ∉ keys ∧ Kind.canonical ref.kind = k := by
  simp only [unresolvedOf, List.map_map, List.mem_map, List.mem_filter, Option.isNone_iff_eq_none,
    resolve?_eq_none_iff, Function.comp_apply, Unresolved.ofRef]
  constructor
  · rintro ⟨ref, ⟨href, hkey⟩, hkind⟩
    exact ⟨ref, href, hkey, hkind⟩
  · rintro ⟨ref, href, hkey, hkind⟩
    exact ⟨ref, ⟨href, hkey⟩, hkind⟩

namespace Lineage

open Links

variable {g : Lineage} {i : Nat} {x : Resource}

/-- The evidence about a resource lists the edges from other resources, each with its kind. -/
theorem mem_incoming_iff
    (hg : g.isLinked = true)
    (hi : g.nodes[i]? = some x)
    {type : EdgeType} {k : Text} :
    (type, k) ∈ (evidence g.nodes g.edges x i).incoming ↔
      ∃ y ∈ g.members, y.kind = k ∧
        (⟨y.key, x.key, type⟩ : KeyEdge) ∈ declaredEdges g.root g.members := by
  have hxkey : g.keyAt? i = some x.key := keyAt?_of_getElem? hi
  simp only [evidence, List.mem_filterMap]
  constructor
  · rintro ⟨⟨j, target, type'⟩, he, hsome⟩
    split at hsome
    · next hends =>
      simp only [Bool.and_eq_true, decide_eq_true_eq] at hends
      obtain ⟨rfl, hj⟩ := hends
      obtain ⟨y, hy, hpair⟩ := Option.map_eq_some_iff.mp hsome
      obtain ⟨rfl, hkind⟩ := Prod.mk.injEq .. ▸ hpair
      have hab := (mem_edges_iff_of_keyAt? hg (keyAt?_of_getElem? hy) hxkey).mp he
      exact ⟨y, mem_members_iff.mpr ⟨j, hj, hy⟩, hkind, hab⟩
    · cases hsome
  · rintro ⟨y, hy, hkind, hab⟩
    obtain ⟨j, hj, hyj⟩ := mem_members_iff.mp hy
    have he := (mem_edges_iff_of_keyAt? hg (keyAt?_of_getElem? hyj) hxkey).mpr hab
    refine ⟨⟨j, i, type⟩, he, ?_⟩
    simp [hj, hyj, hkind]

/-- The evidence that linking judges a resource by shows the facts that the batch declares. -/
theorem facts_evidence
    (hg : g.isLinked = true)
    (hi : g.nodes[i]? = some x)
    (hx : x ∈ g.members) :
    (evidence g.nodes g.edges x i).facts = declaredFacts g.root g.members x := by
  apply Orphan.Facts.ext
  · funext k
    apply propext
    change (EdgeType.references, k) ∈ (evidence g.nodes g.edges x i).incoming ↔ _
    rw [mem_incoming_iff hg hi]
    constructor
    · rintro ⟨y, hy, hkind, hab⟩
      exact ⟨y, hy, (joined_references_iff hx hy).mp hab, hkind⟩
    · rintro ⟨y, hy, hrefers, hkind⟩
      exact ⟨y, hy, hkind, (joined_references_iff hx hy).mpr hrefers⟩
  · apply propext
    change (∃ k, (EdgeType.owns, k) ∈ (evidence g.nodes g.edges x i).incoming) ↔ _
    simp only [mem_incoming_iff hg hi]
    constructor
    · rintro ⟨k, y, hy, -, hab⟩
      exact ⟨y, hy, (joined_owns_members_iff hx hy).mp hab⟩
    · rintro ⟨y, hy, howner⟩
      exact ⟨y.kind, y, hy, rfl, (joined_owns_members_iff hx hy).mpr howner⟩
  · funext k
    apply propext
    change k ∈ (unresolvedOf g.keys x).map Unresolved.kind ↔ _
    rw [mem_unresolvedOf_kind]
    simp only [declaredFacts, keys, nodes, List.mem_map, not_exists, not_and, ne_eq]
  · apply propext
    exact Orphan.isServiceAccountToken_iff

/-- The orphans of a linked lineage are the resources that are orphans on the declared facts. -/
theorem isOrphan_iff
    (hg : g.isLinked = true)
    (hi : i ≠ 0)
    (hx : g.nodes[i]? = some x) :
    g.isOrphan i = true ↔
      Orphan.OrphanOn x.kind x.name x.ns (declaredFacts g.root g.members x) := by
  have hmem : x ∈ g.members := mem_members_iff.mpr ⟨i, hi, hx⟩
  have hedges : g.edges = (Links.of g.root g.members).edges := by
    rw [edges, g.links_of_linked hg]
  rw [← facts_evidence hg hx hmem, ← Orphan.isOrphan_eq_true_iff, isOrphan, List.contains_iff_mem,
    g.links_of_linked hg, hedges]
  simp only [Links.of, List.mem_map, List.mem_filter]
  constructor
  · rintro ⟨⟨y, j⟩, ⟨hy, horphan⟩, rfl⟩
    have hyx : y = x := Option.some.inj ((mem_numbered.mp hy).2.symm.trans hx)
    subst hyx
    exact horphan
  · intro horphan
    exact ⟨(x, i), ⟨mem_numbered.mpr ⟨hi, hx⟩, horphan⟩, rfl⟩

/-- The cluster itself is never an orphan. -/
theorem isOrphan_zero (g : Lineage) (hg : g.isLinked = true) : g.isOrphan 0 = false := by
  rw [Bool.eq_false_iff]
  intro h
  rw [isOrphan, List.contains_iff_mem, g.links_of_linked hg] at h
  obtain ⟨⟨y, j⟩, hy, hj⟩ := List.mem_map.mp h
  have hnode : j ≠ 0 ∧ g.nodes[j]? = some y := mem_numbered.mp (List.mem_filter.mp hy).1
  exact hnode.1 hj

theorem unresolved_eq (hg : g.isLinked = true) :
    g.unresolved = g.members.flatMap (unresolvedOf g.keys) := by
  rw [unresolved, g.links_of_linked hg]
  rfl

theorem source_of_mem_unresolvedOf
    {keys : List Text} {u : Unresolved}
    (h : u ∈ unresolvedOf keys x) :
    u.source = x.key := by
  obtain ⟨ref, -, rfl⟩ := List.mem_map.mp h
  rfl

/-- No reference of the cluster itself leads nowhere. -/
theorem unresolvedFrom_zero (hg : g.isLinked = true) : g.unresolvedFrom 0 = [] := by
  rw [unresolvedFrom, keyAt?_zero]
  dsimp only
  rw [unresolved_eq hg, List.filter_eq_nil_iff]
  intro u hu hroot
  obtain ⟨r, hr, hur⟩ := List.mem_flatMap.mp hu
  have hkey : r.key = g.root.key :=
    (source_of_mem_unresolvedOf hur).symm.trans (beq_iff_eq.mp hroot)
  exact key_ne_root_of_mem_members hr hkey

/-- Orphan status is what the batch says.  After resources have been added to a cluster and linked,
with or without a check of ownership, the nodes are the cluster and the first resource with each new
key, and each of these resources is an orphan exactly if it is one on the declared facts. -/
theorem isOrphan_linkAll_iff_declared (root : Resource) (rs : List Resource) (validate : Bool) :
    (linkAll root rs validate).nodes = root :: accepted [root.key] rs ∧
      ∀ i x, i ≠ 0 → (linkAll root rs validate).nodes[i]? = some x →
        ((linkAll root rs validate).isOrphan i = true ↔
          Orphan.OrphanOn x.kind x.name x.ns
            (declaredFacts root (accepted [root.key] rs) x)) := by
  constructor
  · rw [nodes, root_linkAll, members_linkAll]
  · intro i x hi hx
    rw [isOrphan_iff (isLinked_linkAll root rs validate) hi hx, root_linkAll, members_linkAll]

/-- A role binding in capitals is judged by the rule of its kind: its role is there and refers back,
but the service account that it names is not. -/
theorem isOrphan_linkAll_role_binding :
    let root : Resource := { kind := "cluster", name := "prod" }
    let role : Resource := { kind := "Role", name := "reader", ns := some "apps" }
    let binding : Resource :=
      { kind := "ROLEBINDING", name := "readers", ns := some "apps"
        relations := [{ kind := "role", name := "Reader", ns := some "apps" },
          { kind := "ServiceAccount", name := "gone", ns := some "apps" }] }
    2 ≠ 0 ∧ (linkAll root [role, binding] true).nodes[2]? = some binding ∧
      Orphan.OrphanOn binding.kind binding.name binding.ns
        (declaredFacts root (accepted [root.key] [role, binding]) binding) := by
  intro root role binding
  have hnode : (linkAll root [role, binding] true).nodes[2]? = some binding := by decide +kernel
  have horphan : (linkAll root [role, binding] true).isOrphan 2 = true := by decide +kernel
  exact ⟨by decide, hnode,
    ((isOrphan_linkAll_iff_declared root [role, binding] true).2 2 binding (by decide) hnode).mp
      horphan⟩

end Lineage

end ClusterLineage
