import ClusterLineage.Proofs.Lineage.Numbers

/-!
# Edges between keys

The edges of a lineage join numbers, and numbers depend on the order in which the resources came.
Written between keys the same edges depend on the resources alone: `declaredEdges` lists them
without any number, and `map_keyEdge?_edges` says that the edges of a linked lineage are exactly
these, one by one and in the same order.
-/

namespace ClusterLineage

/-- An edge between two nodes, which are given by their keys. -/
structure KeyEdge where
  source : Text
  target : Text
  type : EdgeType
  deriving DecidableEq, Repr

namespace Links

/-- The edges of a reference between two keys, one each way. -/
def keysBothWays (a b : Text) : List KeyEdge :=
  [⟨a, b, .references⟩, ⟨b, a, .references⟩]

/-- The key of the owner of a resource, given the keys of the cluster and of all nodes: that of its
first declared owner, or of the cluster if no node has that key or no owner is declared. -/
def ownerKey (root : Text) (keys : List Text) (r : Resource) : Text :=
  match r.owners.head? with
  | some owner => if owner.key ∈ keys then owner.key else root
  | none => root

/-- The edge to each resource from its owner. -/
def declaredOwnerEdges (root : Text) (keys : List Text) (members : List Resource) : List KeyEdge :=
  members.map fun r => ⟨ownerKey root keys r, r.key, .owns⟩

/-- The edges of each resource with the others that its selectors reach. -/
def declaredSelectorEdges (members : List Resource) : List KeyEdge :=
  members.flatMap fun r => members.flatMap fun target =>
    if r.key ≠ target.key ∧ r.selects target = true then keysBothWays r.key target.key else []

/-- The edges of each resource with the nodes that it refers to by name. -/
def declaredRelationEdges (keys : List Text) (members : List Resource) : List KeyEdge :=
  members.flatMap fun r => r.relations.flatMap fun ref =>
    if ref.key ∈ keys then keysBothWays r.key ref.key else []

/-- The edges that a cluster and its resources declare. -/
def declaredEdges (root : Resource) (members : List Resource) : List KeyEdge :=
  let keys := (root :: members).map Resource.key
  declaredOwnerEdges root.key keys members ++ declaredSelectorEdges members ++
    declaredRelationEdges keys members

end Links

namespace Lineage

open Links

variable {g : Lineage} {i j : Nat} {a b : Text} {type : EdgeType} {r : Resource}

/-- An edge with the keys of its ends. -/
def keyEdge? (g : Lineage) (e : Edge) : Option KeyEdge :=
  match g.keyAt? e.source, g.keyAt? e.target with
  | some a, some b => some ⟨a, b, e.type⟩
  | _, _ => none

theorem keyEdge?_mk
    (hi : g.keyAt? i = some a)
    (hj : g.keyAt? j = some b) :
    g.keyEdge? ⟨i, j, type⟩ = some ⟨a, b, type⟩ := by
  simp [keyEdge?, hi, hj]

theorem keyEdge?_eq_some_iff {type' : EdgeType} :
    g.keyEdge? ⟨i, j, type⟩ = some ⟨a, b, type'⟩ ↔
      g.keyAt? i = some a ∧ g.keyAt? j = some b ∧ type = type' := by
  constructor
  · intro h
    cases hi : g.keyAt? i with
    | none => simp [keyEdge?, hi] at h
    | some a' =>
      cases hj : g.keyAt? j with
      | none => simp [keyEdge?, hi, hj] at h
      | some b' => simpa [keyEdge?, hi, hj] using h
  · rintro ⟨hi, hj, rfl⟩
    exact keyEdge?_mk hi hj

theorem map_keyEdge?_bothWays
    (hi : g.keyAt? i = some a)
    (hj : g.keyAt? j = some b) :
    (bothWays i j).map g.keyEdge? = (keysBothWays a b).map some := by
  simp [bothWays, keysBothWays, keyEdge?_mk hi hj, keyEdge?_mk hj hi]

theorem keyAt?_of_mem_numbered
    (h : (r, i) ∈ numbered g.members) :
    g.keyAt? i = some r.key :=
  keyAt?_of_getElem? (mem_numbered.mp h).2

/-- The number of the owner of a resource belongs to the key of the owner. -/
theorem keyAt?_ownerOf (g : Lineage) (r : Resource) :
    g.keyAt? (ownerOf g.keys r) = some (ownerKey g.root.key g.keys r) := by
  unfold ownerOf ownerKey
  cases r.owners.head? with
  | none => rfl
  | some owner =>
    rw [Option.bind_some]
    cases hfind : resolve? g.keys owner with
    | none =>
      have hmissing : owner.key ∉ g.keys := resolve?_eq_none_iff.mp hfind
      simp only [Option.getD_none]
      rw [if_neg hmissing, keyAt?_zero]
    | some p =>
      have hp : g.keys[p]? = some owner.key :=
        (resolve?_eq_some_iff g.keys_nodup).mp hfind
      simp only [Option.getD_some]
      rw [if_pos (List.mem_of_getElem? hp), keyAt?_eq_getElem?, hp]

theorem map_keyEdge?_ownerEdges (g : Lineage) :
    (ownerEdges g.keys g.members).map g.keyEdge? =
      (declaredOwnerEdges g.root.key g.keys g.members).map some := by
  rw [ownerEdges, declaredOwnerEdges, List.map_map, List.map_map]
  nth_rewrite 2 [← map_fst_numbered g.members]
  rw [List.map_map]
  apply List.map_congr_left
  rintro ⟨r, i⟩ hr
  exact keyEdge?_mk (keyAt?_ownerOf g r) (keyAt?_of_mem_numbered hr)

/-- Collecting edges from the numbered resources, and writing them between keys, can be done for
each resource on its own. -/
theorem map_keyEdge?_flatMap_numbered
    {f : Resource × Nat → List Edge} {f' : Resource → List KeyEdge}
    (h : ∀ r i, (r, i) ∈ numbered g.members → (f (r, i)).map g.keyEdge? = (f' r).map some) :
    ((numbered g.members).flatMap f).map g.keyEdge? = (g.members.flatMap f').map some := by
  rw [List.map_flatMap, List.map_flatMap, ← flatMap_numbered]
  apply List.flatMap_congr
  rintro ⟨r, i⟩ hr
  exact h r i hr

theorem map_keyEdge?_selectorEdges (g : Lineage) :
    (selectorEdges g.members).map g.keyEdge? = (declaredSelectorEdges g.members).map some := by
  apply map_keyEdge?_flatMap_numbered
  intro r i hr
  apply map_keyEdge?_flatMap_numbered
  intro target j htarget
  have hi : g.keyAt? i = some r.key := keyAt?_of_mem_numbered hr
  have hj : g.keyAt? j = some target.key := keyAt?_of_mem_numbered htarget
  have hne : i ≠ j ↔ r.key ≠ target.key := by
    constructor
    · intro hij hkey
      exact hij (keyAt?_inj hi (hkey ▸ hj))
    · rintro hkey rfl
      exact hkey (Option.some.inj (hi.symm.trans hj))
  by_cases hselects : r.selects target = true
  · by_cases hij : i = j
    · simp [hij, ← hne]
    · simp [hij, ← hne, hselects, map_keyEdge?_bothWays hi hj]
  · simp [hselects]

theorem map_keyEdge?_relationEdges (g : Lineage) :
    (relationEdges g.keys g.members).map g.keyEdge? =
      (declaredRelationEdges g.keys g.members).map some := by
  apply map_keyEdge?_flatMap_numbered
  intro r i hr
  have hi : g.keyAt? i = some r.key := keyAt?_of_mem_numbered hr
  rw [List.map_flatMap, List.map_flatMap]
  apply List.flatMap_congr
  intro ref _
  cases hfind : resolve? g.keys ref with
  | none =>
    have hmissing : ref.key ∉ g.keys := resolve?_eq_none_iff.mp hfind
    rw [if_neg hmissing]
    simp
  | some j =>
    have hj : g.keyAt? j = some ref.key := by
      rw [keyAt?_eq_getElem?]
      exact (resolve?_eq_some_iff g.keys_nodup).mp hfind
    have hfound : ref.key ∈ g.keys := mem_keys_iff.mpr ⟨j, hj⟩
    rw [if_pos hfound]
    exact map_keyEdge?_bothWays hi hj

/-- The edges of a linked lineage, written between keys, are those that its resources declare. -/
theorem map_keyEdge?_edges (hg : g.isLinked = true) :
    g.edges.map g.keyEdge? = (declaredEdges g.root g.members).map some := by
  unfold edges
  rw [g.links_of_linked hg]
  change (ownerEdges g.keys g.members ++ selectorEdges g.members ++
    relationEdges g.keys g.members).map g.keyEdge? =
      (declaredOwnerEdges g.root.key g.keys g.members ++ declaredSelectorEdges g.members ++
        declaredRelationEdges g.keys g.members).map some
  simp only [List.map_append, map_keyEdge?_ownerEdges, map_keyEdge?_selectorEdges,
    map_keyEdge?_relationEdges]

/-- The edges of a lineage, written between keys. -/
def keyEdges (g : Lineage) : List KeyEdge :=
  g.edges.filterMap g.keyEdge?

theorem keyEdges_eq (hg : g.isLinked = true) :
    g.keyEdges = declaredEdges g.root g.members := by
  have hmap := congrArg (List.filterMap id) (map_keyEdge?_edges hg)
  rw [List.filterMap_map, List.filterMap_map] at hmap
  exact hmap.trans List.filterMap_some

/-- Two numbers are joined exactly if they belong to keys that the resources join. -/
theorem mem_edges_iff (hg : g.isLinked = true) :
    (⟨i, j, type⟩ : Edge) ∈ g.edges ↔
      ∃ a b, g.keyAt? i = some a ∧ g.keyAt? j = some b ∧
        ⟨a, b, type⟩ ∈ declaredEdges g.root g.members := by
  have hmap := map_keyEdge?_edges hg
  constructor
  · intro he
    have hmem : g.keyEdge? ⟨i, j, type⟩ ∈ (declaredEdges g.root g.members).map some :=
      hmap ▸ List.mem_map_of_mem he
    obtain ⟨⟨a, b, type'⟩, hk, hkeys⟩ := List.mem_map.mp hmem
    obtain ⟨hi, hj, rfl⟩ := keyEdge?_eq_some_iff.mp hkeys.symm
    exact ⟨a, b, hi, hj, hk⟩
  · rintro ⟨a, b, hi, hj, hk⟩
    have hmem : some (⟨a, b, type⟩ : KeyEdge) ∈ g.edges.map g.keyEdge? :=
      hmap ▸ List.mem_map_of_mem hk
    obtain ⟨⟨i', j', type'⟩, he, hkeys⟩ := List.mem_map.mp hmem
    obtain ⟨hi', hj', rfl⟩ := keyEdge?_eq_some_iff.mp hkeys
    obtain rfl := keyAt?_inj hi hi'
    obtain rfl := keyAt?_inj hj hj'
    exact he

theorem mem_edges_iff_of_keyAt?
    (hg : g.isLinked = true)
    (hi : g.keyAt? i = some a)
    (hj : g.keyAt? j = some b) :
    (⟨i, j, type⟩ : Edge) ∈ g.edges ↔ ⟨a, b, type⟩ ∈ declaredEdges g.root g.members := by
  rw [mem_edges_iff hg]
  constructor
  · rintro ⟨a', b', hi', hj', he⟩
    obtain rfl := Option.some.inj (hi.symm.trans hi')
    obtain rfl := Option.some.inj (hj.symm.trans hj')
    exact he
  · intro he
    exact ⟨a, b, hi, hj, he⟩

end Lineage

end ClusterLineage
