import ClusterLineage.Proofs.Lineage.DeclaredPairs
import ClusterLineage.Proofs.Lineage.Neighbours
import ClusterLineage.Proofs.Lineage.Session
import ClusterLineage.Proofs.Ownership.Chain

/-!
# The edges of a linked lineage, counted

Linking collects edges in three passes.  With multiplicity they are what the resources declare: one
edge of ownership into every resource, from the owner that it declares, and between any two nodes
one reference each way for each time that one of them selects or names the other.  The order in
which a lineage lists its edges brings none and loses none.
-/

namespace ClusterLineage.Lineage

open Links

variable {g : Lineage} {i j p c : Nat} {type : EdgeType} {e : Edge} {x y : Resource} {a b : Text}

theorem ends_lt_size_of_mem_edges
    (hg : g.isLinked = true)
    (he : e ∈ g.edges) :
    e.source < g.size ∧ e.target < g.size := by
  obtain ⟨a, b, ha, hb, -⟩ := (mem_edges_iff hg).mp he
  exact ⟨lt_size_of_keyAt? ha, lt_size_of_keyAt? hb⟩

/-! ## The order of the edges -/

theorem mem_edges_of_mem_orderedEdges (he : e ∈ g.orderedEdges) : e ∈ g.edges := by
  obtain ⟨i, -, he⟩ := List.mem_flatMap.mp he
  obtain ⟨j, -, he⟩ := List.mem_flatMap.mp he
  exact List.mem_of_mem_filter (List.mem_of_mem_filter he)

/-- The edges in the order of the graph are all edges, each as often as it arose. -/
theorem orderedEdges_perm (hg : g.isLinked = true) : g.orderedEdges.Perm g.edges := by
  rw [List.perm_iff_count]
  intro e
  by_cases he : e ∈ g.edges
  · -- an edge is listed only at its source, and there only at its target
    have hsource : e.source ∈ List.range g.size :=
      List.mem_range.mpr (ends_lt_size_of_mem_edges hg he).1
    have hout : e ∈ g.edgesFrom e.source :=
      List.mem_filter.mpr ⟨he, beq_self_eq_true _⟩
    have htarget : e.target ∈ g.targets e.source :=
      List.mem_eraseDups.mpr (List.mem_map_of_mem hout)
    have hlisted : g.orderedEdges.count e = ((g.targets e.source).flatMap fun j =>
        (g.edgesFrom e.source).filter (·.target == j)).count e := by
      apply count_flatMap_of_nodup List.nodup_range hsource
      intro i _ hei
      obtain ⟨j, -, hej⟩ := List.mem_flatMap.mp hei
      exact (beq_iff_eq.mp (List.mem_filter.mp (List.mem_of_mem_filter hej)).2).symm
    have hparallel : ((g.targets e.source).flatMap fun j =>
        (g.edgesFrom e.source).filter (·.target == j)).count e =
          ((g.edgesFrom e.source).filter (·.target == e.target)).count e := by
      apply count_flatMap_of_nodup (nodup_eraseDups _) htarget
      intro j _ hej
      exact (beq_iff_eq.mp (List.mem_filter.mp hej).2).symm
    have hfrom : (g.edgesFrom e.source).count e = g.edges.count e :=
      List.count_filter (beq_self_eq_true e.source)
    have hto : ((g.edgesFrom e.source).filter (·.target == e.target)).count e =
        (g.edgesFrom e.source).count e :=
      List.count_filter (beq_self_eq_true e.target)
    rw [hlisted, hparallel, hto, hfrom]
  · rw [List.count_eq_zero_of_not_mem he,
      List.count_eq_zero_of_not_mem fun h => he (mem_edges_of_mem_orderedEdges h)]

/-! ## References -/

/-- An edge occurs as often as it is declared between the keys of its ends. -/
theorem count_edges_eq
    (hg : g.isLinked = true)
    (hi : g.keyAt? i = some a)
    (hj : g.keyAt? j = some b) :
    g.edges.count ⟨i, j, type⟩ = (declaredEdges g.root g.members).count ⟨a, b, type⟩ := by
  have hnumbers : (g.edges.map g.keyEdge?).count (some ⟨a, b, type⟩) =
      g.edges.count ⟨i, j, type⟩ := by
    rw [List.count_eq_countP, List.countP_map]
    apply List.countP_congr
    rintro ⟨i', j', type'⟩ _
    rw [Function.comp_apply, beq_iff_eq, beq_iff_eq, keyEdge?_eq_some_iff, Edge.mk.injEq]
    constructor
    · rintro ⟨hi', hj', rfl⟩
      exact ⟨keyAt?_inj hi' hi, keyAt?_inj hj' hj, rfl⟩
    · rintro ⟨rfl, rfl, rfl⟩
      exact ⟨hi, hj, rfl⟩
  have hkeys : ((declaredEdges g.root g.members).map some).count (some ⟨a, b, type⟩) =
      (declaredEdges g.root g.members).count ⟨a, b, type⟩ := by
    rw [List.count_eq_countP, List.countP_map]
    apply List.countP_congr
    intro k _
    rw [Function.comp_apply, beq_iff_eq, beq_iff_eq, Option.some.injEq]
  rw [← hnumbers, map_keyEdge?_edges hg, hkeys]

/-- How many references a node declares to another one: one if its selectors reach the other, and
one for each time that it names the other.  The cluster declares none and no selectors reach it. -/
def declaredReferences (g : Lineage) (i j : Nat) : Nat :=
  match g.nodes[i]?, g.nodes[j]? with
  | some x, some y =>
    if i = 0 then 0
    else (if j ≠ 0 ∧ i ≠ j ∧ x.Selects y then 1 else 0) +
      x.relations.countP fun ref => ref.key = y.key
  | _, _ => 0

theorem declaredReferences_eq_zero_of_size_le (h : g.size ≤ i ∨ g.size ≤ j) :
    g.declaredReferences i j = 0 := by
  rcases h with h | h
  · have hnone : g.nodes[i]? = none := List.getElem?_eq_none h
    simp only [declaredReferences, hnone]
  · have hnone : g.nodes[j]? = none := List.getElem?_eq_none h
    rw [declaredReferences, hnone]
    cases g.nodes[i]? with
    | none => rfl
    | some x => rfl

theorem count_declaredPairs
    (hx : g.nodes[i]? = some x)
    (hy : g.nodes[j]? = some y) :
    (declaredPairs g.root g.members).count (x.key, y.key) = g.declaredReferences i j := by
  have hkeys : (g.members.map Resource.key).Nodup := (List.nodup_cons.mp g.nodup_keys).2
  simp only [declaredReferences, hx, hy]
  by_cases hi : i = 0
  · subst hi
    obtain rfl : g.root = x := Option.some.inj hx
    rw [if_pos rfl]
    exact List.count_eq_zero_of_not_mem fun h => root_key_not_mem g (key_mem_of_mem_declaredPairs h)
  · have hxmem : x ∈ g.members := mem_members_iff.mpr ⟨i, hi, hx⟩
    have hykey : y.key ∈ (g.root :: g.members).map Resource.key :=
      mem_keys_iff.mpr ⟨j, keyAt?_of_getElem? hy⟩
    rw [if_neg hi, declaredPairs, List.count_append, count_relationPairs hkeys hxmem hykey]
    congr 1
    by_cases hj : j = 0
    · subst hj
      obtain rfl : g.root = y := Option.some.inj hy
      rw [if_neg (fun h => h.1 rfl)]
      exact List.count_eq_zero_of_not_mem fun h =>
        root_key_not_mem g (key_mem_of_mem_selectorPairs h)
    · have hymem : y ∈ g.members := mem_members_iff.mpr ⟨j, hj, hy⟩
      have hne : x.key ≠ y.key ↔ i ≠ j := by
        have hxkey := keyAt?_of_getElem? hx
        have hykey := keyAt?_of_getElem? hy
        constructor
        · rintro hxy rfl
          exact hxy (Option.some.inj (hxkey.symm.trans hykey))
        · intro hij hxy
          exact hij (keyAt?_inj hxkey (hxy ▸ hykey))
      rw [count_selectorPairs hkeys hxmem hymem]
      simp only [hne, ne_eq, hj, not_false_eq_true, true_and]

/-- Two nodes are joined by the references that they declare to each other. -/
theorem count_references
    (hg : g.isLinked = true)
    (i j : Nat) :
    g.edges.count ⟨i, j, .references⟩ = g.declaredReferences i j + g.declaredReferences j i := by
  by_cases hends : i < g.size ∧ j < g.size
  · have hx : g.nodes[i]? = some _ := List.getElem?_eq_getElem hends.1
    have hy : g.nodes[j]? = some _ := List.getElem?_eq_getElem hends.2
    rw [count_edges_eq hg (keyAt?_of_getElem? hx) (keyAt?_of_getElem? hy),
      count_references_declaredEdges, count_declaredPairs hx hy, count_declaredPairs hy hx]
  · have hnone : (⟨i, j, .references⟩ : Edge) ∉ g.edges := fun he =>
      hends (ends_lt_size_of_mem_edges hg he)
    have hout : g.size ≤ i ∨ g.size ≤ j := by omega
    rw [List.count_eq_zero_of_not_mem hnone, declaredReferences_eq_zero_of_size_le hout,
      declaredReferences_eq_zero_of_size_le hout.symm]

/-- References lead both ways. -/
theorem mem_references_comm (hg : g.isLinked = true) :
    (⟨i, j, .references⟩ : Edge) ∈ g.edges ↔ (⟨j, i, .references⟩ : Edge) ∈ g.edges := by
  rw [← List.count_pos_iff, ← List.count_pos_iff, count_references hg, count_references hg,
    Nat.add_comm]

/-! ## Ownership -/

/-- The owner that a resource declares has a number: that of the node with the key of its first
owner, or zero if there is no such node or no owner is declared. -/
def DeclaresOwner (g : Lineage) (x : Resource) (p : Nat) : Prop :=
  (∃ ref, x.owners.head? = some ref ∧ g.keyAt? p = some ref.key) ∨
    p = 0 ∧ ∀ ref, x.owners.head? = some ref → ref.key ∉ g.keys

theorem declaresOwner_declaredOwner (hx : g.nodes[i]? = some x) :
    g.DeclaresOwner x (g.declaredOwner i) := by
  have howner : g.declaredOwner i = ownerOf g.keys x := by
    rw [declaredOwner, hx, Option.map_some, Option.getD_some]
  have hkey := keyAt?_ownerOf g x
  rw [← howner, ownerKey] at hkey
  have hroot : g.keyAt? (g.declaredOwner i) = some g.root.key → g.declaredOwner i = 0 :=
    fun h => keyAt?_inj h (keyAt?_zero g)
  split at hkey
  · next ref href =>
    split at hkey
    · exact .inl ⟨ref, href, hkey⟩
    · next hmissing =>
      refine .inr ⟨hroot hkey, fun ref' href' => ?_⟩
      obtain rfl := Option.some.inj (href.symm.trans href')
      exact hmissing
  · next hnone =>
    refine .inr ⟨hroot hkey, fun ref href => ?_⟩
    rw [hnone] at href
    cases href

theorem nodup_ownerEdges (keys : List Text) (members : List Resource) :
    (ownerEdges keys members).Nodup := by
  have htargets : ((ownerEdges keys members).map Edge.target).Nodup := by
    rw [ownerEdges, List.map_map]
    change ((numbered members).map Prod.snd).Nodup
    rw [numbered, List.zipIdx_map_snd]
    exact List.nodup_range'
  exact htargets.of_map

/-- Every resource has one edge of ownership into it, from the owner that it declares. -/
theorem count_owns (hg : g.isLinked = true) :
    g.edges.count ⟨p, c, .owns⟩ =
      if c ≠ 0 ∧ c < g.size ∧ g.declaredOwner c = p then 1 else 0 := by
  have hedges : g.edges = ownerEdges g.keys g.members ++ selectorEdges g.members ++
      relationEdges g.keys g.members := by
    rw [edges, g.links_of_linked hg]
    rfl
  have hselectors : (⟨p, c, .owns⟩ : Edge) ∉ selectorEdges g.members := by
    intro h
    have htype := type_of_mem_selectorEdges h
    cases htype
  have hrelations : (⟨p, c, .owns⟩ : Edge) ∉ relationEdges g.keys g.members := by
    intro h
    have htype := type_of_mem_relationEdges h
    cases htype
  have howner : (⟨p, c, .owns⟩ : Edge) ∈ ownerEdges g.keys g.members ↔
      c ≠ 0 ∧ c < g.size ∧ g.declaredOwner c = p := by
    rw [← owns_iff hg, Owns, hedges, List.mem_append, List.mem_append]
    tauto
  rw [hedges, List.count_append, List.count_append, List.count_eq_zero_of_not_mem hselectors,
    List.count_eq_zero_of_not_mem hrelations, (nodup_ownerEdges _ _).count]
  simp only [howner, Nat.add_zero]

/-! ## All edges -/

/-- The edges of a lineage, in the order of the graph and with multiplicity, are those that its
resources declare. -/
structure EdgesAsDeclared (g : Lineage) : Prop where
  ends : ∀ e ∈ g.orderedEdges, e.source < g.size ∧ e.target < g.size
  owner : ∀ i x, i ≠ 0 → g.nodes[i]? = some x →
    ∃ p, g.DeclaresOwner x p ∧
      ∀ q, g.orderedEdges.count ⟨q, i, .owns⟩ = if q = p then 1 else 0
  root_free : ∀ q, g.orderedEdges.count ⟨q, 0, .owns⟩ = 0
  references : ∀ i j, g.orderedEdges.count ⟨i, j, .references⟩ =
    g.declaredReferences i j + g.declaredReferences j i
  both_ways : ∀ i j, g.orderedEdges.count ⟨i, j, .references⟩ =
    g.orderedEdges.count ⟨j, i, .references⟩
  number : g.orderedEdges.length = (g.size - 1) +
    2 * ((g.members.map fun r =>
          g.members.countP fun target => r.key ≠ target.key ∧ r.Selects target).sum +
        (g.members.map fun r => r.relations.countP fun ref => ref.key ∈ g.keys).sum)
  successors : ∀ i type, (g.successors i type).Nodup ∧
    ∀ j, j ∈ g.successors i type ↔ ⟨i, j, type⟩ ∈ g.orderedEdges
  predecessors : ∀ j type, (g.predecessors j type).Nodup ∧
    ∀ i, i ∈ g.predecessors j type ↔ ⟨i, j, type⟩ ∈ g.orderedEdges

theorem edgesAsDeclared_of_linked (hg : g.isLinked = true) : g.EdgesAsDeclared := by
  have hperm := orderedEdges_perm hg
  have hcount (e : Edge) : g.orderedEdges.count e = g.edges.count e := hperm.count_eq e
  refine ⟨?_, ?_, ?_, ?_, ?_, ?_, ?_, ?_⟩
  · intro e he
    exact ends_lt_size_of_mem_edges hg (hperm.mem_iff.mp he)
  · intro i x hi hx
    have hsize : i < g.size := (List.getElem?_eq_some_iff.mp hx).1
    refine ⟨g.declaredOwner i, declaresOwner_declaredOwner hx, fun q => ?_⟩
    rw [hcount, count_owns hg]
    simp only [ne_eq, hi, not_false_eq_true, hsize, true_and, eq_comm]
  · intro q
    rw [hcount, count_owns hg, if_neg fun h => h.1 rfl]
  · intro i j
    rw [hcount, count_references hg]
  · intro i j
    rw [hcount, hcount, count_references hg, count_references hg, Nat.add_comm]
  · have hlength : g.edges.length = (declaredEdges g.root g.members).length := by
      have hmap := congrArg List.length (map_keyEdge?_edges hg)
      rwa [List.length_map, List.length_map] at hmap
    rw [hperm.length_eq, hlength, length_declaredEdges, length_declaredPairs]
    rfl
  · intro i type
    refine ⟨nodup_successors g i type, fun j => ?_⟩
    rw [mem_successors, hperm.mem_iff]
  · intro j type
    refine ⟨nodup_predecessors g j type, fun i => ?_⟩
    rw [mem_predecessors, hperm.mem_iff]

/-- The edges of a linked lineage are what the resources declare.  After resources have been added
to a cluster and linked, with or without a check of ownership, the nodes are the cluster and the
first resource with each new key, and the edges between them are those that these declare. -/
theorem edges_linkAll_as_declared (root : Resource) (rs : List Resource) (validate : Bool) :
    (linkAll root rs validate).nodes = root :: accepted [root.key] rs ∧
      (linkAll root rs validate).EdgesAsDeclared := by
  constructor
  · rw [nodes, root_linkAll, members_linkAll]
  · exact edgesAsDeclared_of_linked (isLinked_linkAll root rs validate)

end ClusterLineage.Lineage
