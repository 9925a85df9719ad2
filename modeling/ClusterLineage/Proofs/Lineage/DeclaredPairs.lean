import ClusterLineage.Proofs.Lineage.References
import Mathlib.Algebra.BigOperators.Group.List.Basic
import Mathlib.Algebra.GroupWithZero.Nat

/-!
# References between keys, counted

Every reference that the resources of a batch declare leads from a key to a key: from a resource to
another that its selectors reach, or from a resource to a node that it names.  An edge of type
`references` arises once for each such pair in either direction, so the number of edges from one
key to another is the number of pairs there plus the number of pairs back.
-/

namespace ClusterLineage

section Count

variable {α β : Type}

/-- If only one member of a list contributes a value, it contributes all of its occurrences. -/
theorem count_flatMap_of_nodup
    [DecidableEq α] [BEq β] [LawfulBEq β]
    {l : List α} {f : α → List β} {a : α} {z : β}
    (hl : l.Nodup)
    (ha : a ∈ l)
    (hother : ∀ b ∈ l, z ∈ f b → b = a) :
    (l.flatMap f).count z = (f a).count z := by
  have hzero : ∀ b, b ≠ a → b ∈ l → (f b).count z = 0 := by
    intro b hba hb
    exact List.count_eq_zero_of_not_mem fun hz => hba (hother b hb hz)
  have hone : l.count a = 1 := List.count_eq_one_of_mem hl ha
  rw [List.count_flatMap]
  calc (l.map (List.count z ∘ f)).sum = l.count a • (f a).count z :=
        List.sum_map_eq_nsmul_single a (fun b => (f b).count z) hzero
    _ = (f a).count z := by rw [hone, one_nsmul]

/-- Collecting from some members of a list only. -/
theorem flatMap_ite_nil (p : α → Bool) (f : α → List β) (l : List α) :
    (l.flatMap fun a => if p a = true then f a else []) = (l.filter p).flatMap f := by
  induction l with
  | nil => rfl
  | cons a l ih =>
    rw [List.flatMap_cons, ih]
    by_cases ha : p a = true
    · rw [if_pos ha, List.filter_cons_of_pos ha, List.flatMap_cons]
    · rw [if_neg ha, List.filter_cons_of_neg ha, List.nil_append]

end Count

instance (r target : Resource) : Decidable (r.Selects target) :=
  decidable_of_iff _ Resource.selects_eq_true_iff

namespace Links

variable {root x y : Resource} {members : List Resource} {keys : List Text} {a b : Text}

/-- From each resource to the others that its selectors reach. -/
def selectorPairs (members : List Resource) : List (Text × Text) :=
  members.flatMap fun r =>
    (members.filter fun target => r.key ≠ target.key ∧ r.Selects target).map fun target =>
      (r.key, target.key)

/-- From each resource to the nodes that it names, as often as it names them. -/
def relationPairs (keys : List Text) (members : List Resource) : List (Text × Text) :=
  members.flatMap fun r =>
    (r.relations.filter fun ref => ref.key ∈ keys).map fun ref => (r.key, ref.key)

/-- The references that a cluster and its resources declare. -/
def declaredPairs (root : Resource) (members : List Resource) : List (Text × Text) :=
  selectorPairs members ++ relationPairs ((root :: members).map Resource.key) members

theorem declaredSelectorEdges_eq (members : List Resource) :
    declaredSelectorEdges members = (selectorPairs members).flatMap fun p => keysBothWays p.1 p.2 := by
  rw [declaredSelectorEdges, selectorPairs, List.flatMap_assoc]
  apply List.flatMap_congr
  intro r _
  rw [List.flatMap_map, ← flatMap_ite_nil]
  simp only [decide_eq_true_eq, Resource.selects_eq_true_iff]

theorem declaredRelationEdges_eq (keys : List Text) (members : List Resource) :
    declaredRelationEdges keys members =
      (relationPairs keys members).flatMap fun p => keysBothWays p.1 p.2 := by
  rw [declaredRelationEdges, relationPairs, List.flatMap_assoc]
  apply List.flatMap_congr
  intro r _
  rw [List.flatMap_map, ← flatMap_ite_nil]
  simp only [decide_eq_true_eq]

theorem declaredEdges_eq (root : Resource) (members : List Resource) :
    declaredEdges root members =
      declaredOwnerEdges root.key ((root :: members).map Resource.key) members ++
        (declaredPairs root members).flatMap fun p => keysBothWays p.1 p.2 := by
  rw [declaredPairs, List.flatMap_append, ← declaredSelectorEdges_eq, ← declaredRelationEdges_eq,
    declaredEdges, List.append_assoc]

/-- Each pair gives one edge there and one back. -/
theorem count_flatMap_keysBothWays (pairs : List (Text × Text)) (a b : Text) :
    (pairs.flatMap fun p => keysBothWays p.1 p.2).count ⟨a, b, .references⟩ =
      pairs.count (a, b) + pairs.count (b, a) := by
  induction pairs with
  | nil => rfl
  | cons p pairs ih =>
    obtain ⟨c, d⟩ := p
    have hthere : (⟨c, d, .references⟩ : KeyEdge) = ⟨a, b, .references⟩ ↔ (c, d) = (a, b) := by
      simp
    have hback : (⟨d, c, .references⟩ : KeyEdge) = ⟨a, b, .references⟩ ↔ (c, d) = (b, a) := by
      simp [and_comm]
    rw [List.flatMap_cons, List.count_append, ih, keysBothWays, List.count_cons, List.count_cons,
      List.count_nil, List.count_cons, List.count_cons]
    simp only [beq_iff_eq, hthere, hback]
    omega

theorem length_flatMap_keysBothWays (pairs : List (Text × Text)) :
    (pairs.flatMap fun p => keysBothWays p.1 p.2).length = 2 * pairs.length := by
  induction pairs with
  | nil => rfl
  | cons p pairs ih =>
    rw [List.flatMap_cons, List.length_append, ih, List.length_cons, keysBothWays]
    simp only [List.length_cons, List.length_nil]
    omega

/-- The references from one key to another are those declared there and those declared back. -/
theorem count_references_declaredEdges (root : Resource) (members : List Resource) (a b : Text) :
    (declaredEdges root members).count ⟨a, b, .references⟩ =
      (declaredPairs root members).count (a, b) + (declaredPairs root members).count (b, a) := by
  have howners : (⟨a, b, .references⟩ : KeyEdge) ∉
      declaredOwnerEdges root.key ((root :: members).map Resource.key) members := by
    intro h
    have htype := (mem_declaredOwnerEdges.mp h).1
    cases htype
  rw [declaredEdges_eq, List.count_append, List.count_eq_zero_of_not_mem howners, Nat.zero_add,
    count_flatMap_keysBothWays]

theorem length_declaredEdges (root : Resource) (members : List Resource) :
    (declaredEdges root members).length =
      members.length + 2 * (declaredPairs root members).length := by
  rw [declaredEdges_eq, List.length_append, length_flatMap_keysBothWays, declaredOwnerEdges,
    List.length_map]

/-- All declared references: each resource with each that it selects, and each resource as often as
it names a node. -/
theorem length_declaredPairs (root : Resource) (members : List Resource) :
    (declaredPairs root members).length =
      (members.map fun r => members.countP fun target => r.key ≠ target.key ∧ r.Selects target).sum +
        (members.map fun r =>
          r.relations.countP fun ref => ref.key ∈ (root :: members).map Resource.key).sum := by
  rw [declaredPairs, List.length_append, selectorPairs, relationPairs, List.length_flatMap,
    List.length_flatMap]
  simp only [List.length_map, List.countP_eq_length_filter]

/-- Selectors of a resource lead to another one at most once. -/
theorem count_selectorPairs
    (hkeys : (members.map Resource.key).Nodup)
    (hx : x ∈ members)
    (hy : y ∈ members) :
    (selectorPairs members).count (x.key, y.key) =
      if x.key ≠ y.key ∧ x.Selects y then 1 else 0 := by
  have hinj : ∀ r ∈ members, ∀ s ∈ members, r.key = s.key → r = s := by
    intro r hr s hs hrs
    exact List.inj_on_of_nodup_map hkeys hr hs hrs
  have hreached : ((members.filter fun target => x.key ≠ target.key ∧ x.Selects target).map
      fun target => (x.key, target.key)).Nodup := by
    apply List.Nodup.map_on
    · intro r hr s hs hrs
      exact hinj r (List.mem_filter.mp hr).1 s (List.mem_filter.mp hs).1 (Prod.mk.inj hrs).2
    · exact (List.Nodup.of_map _ hkeys).filter _
  rw [selectorPairs, count_flatMap_of_nodup (List.Nodup.of_map _ hkeys) hx, hreached.count]
  · congr 1
    simp only [List.mem_map, List.mem_filter, decide_eq_true_eq, Prod.mk.injEq, true_and, eq_iff_iff]
    constructor
    · rintro ⟨target, ⟨htarget, hsel⟩, hkey⟩
      exact hinj target htarget y hy hkey ▸ hsel
    · intro hsel
      exact ⟨y, ⟨hy, hsel⟩, rfl⟩
  · intro r hr hpair
    obtain ⟨target, -, hkey⟩ := List.mem_map.mp hpair
    exact hinj r hr x hx (Prod.mk.inj hkey).1

/-- A resource refers to a node by name as often as it names it. -/
theorem count_relationPairs
    (hkeys : (members.map Resource.key).Nodup)
    (hx : x ∈ members)
    (hb : b ∈ keys) :
    (relationPairs keys members).count (x.key, b) =
      x.relations.countP fun ref => ref.key = b := by
  rw [relationPairs, count_flatMap_of_nodup (List.Nodup.of_map _ hkeys) hx]
  · rw [List.count_eq_countP, List.countP_map, List.countP_filter]
    apply List.countP_congr
    intro ref _
    simp only [Function.comp_apply, Bool.and_eq_true, beq_iff_eq, Prod.mk.injEq, true_and,
      decide_eq_true_eq]
    constructor
    · exact And.left
    · intro hkey
      exact ⟨hkey, hkey ▸ hb⟩
  · intro r hr hpair
    obtain ⟨ref, -, hkey⟩ := List.mem_map.mp hpair
    exact List.inj_on_of_nodup_map hkeys hr hx (Prod.mk.inj hkey).1

/-- Only resources declare references. -/
theorem key_mem_of_mem_declaredPairs (h : (a, b) ∈ declaredPairs root members) :
    a ∈ members.map Resource.key := by
  rcases List.mem_append.mp h with h | h
  · obtain ⟨r, hr, h⟩ := List.mem_flatMap.mp h
    obtain ⟨target, -, hkey⟩ := List.mem_map.mp h
    exact List.mem_map.mpr ⟨r, hr, (Prod.mk.inj hkey).1⟩
  · obtain ⟨r, hr, h⟩ := List.mem_flatMap.mp h
    obtain ⟨ref, -, hkey⟩ := List.mem_map.mp h
    exact List.mem_map.mpr ⟨r, hr, (Prod.mk.inj hkey).1⟩

/-- Selectors reach resources only. -/
theorem key_mem_of_mem_selectorPairs (h : (a, b) ∈ selectorPairs members) :
    b ∈ members.map Resource.key := by
  obtain ⟨r, -, h⟩ := List.mem_flatMap.mp h
  obtain ⟨target, htarget, hkey⟩ := List.mem_map.mp h
  exact List.mem_map.mpr ⟨target, (List.mem_filter.mp htarget).1, (Prod.mk.inj hkey).2⟩

end Links

end ClusterLineage
