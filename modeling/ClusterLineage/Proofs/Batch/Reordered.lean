import ClusterLineage.Lineage.View
import ClusterLineage.Proofs.Batch.Growth
import ClusterLineage.Proofs.Lineage.Neighbours
import ClusterLineage.Proofs.Lineage.SortedKeys
import ClusterLineage.Proofs.Ownership.Chain
import Mathlib.Data.List.Perm.Basic

/-!
# The same resources in another order

Two linked lineages of one cluster and the same resources differ in the numbers of their nodes and
in the order of their edges.  Between keys they join the same nodes by the same edges, and every
view that shows keys in their order shows the same.
-/

namespace ClusterLineage

namespace Links

variable {root : Resource} {members members' : List Resource} {keys keys' : List Text}

theorem ownerKey_congr
    (hkeys : ∀ k, k ∈ keys ↔ k ∈ keys')
    (root : Text)
    (r : Resource) :
    ownerKey root keys r = ownerKey root keys' r := by
  simp only [ownerKey, hkeys]

theorem unresolvedOf_congr
    (hkeys : ∀ k, k ∈ keys ↔ k ∈ keys')
    (r : Resource) :
    unresolvedOf keys r = unresolvedOf keys' r := by
  unfold unresolvedOf
  congr 1
  apply List.filter_congr
  intro ref _
  rw [Bool.eq_iff_iff, Option.isNone_iff_eq_none, Option.isNone_iff_eq_none, resolve?_eq_none_iff,
    resolve?_eq_none_iff, hkeys]

theorem declaredEdges_perm (hmembers : members.Perm members') :
    (declaredEdges root members).Perm (declaredEdges root members') := by
  have hkeys : ∀ k, k ∈ (root :: members).map Resource.key ↔
      k ∈ (root :: members').map Resource.key := by
    intro k
    exact ((hmembers.cons root).map Resource.key).mem_iff
  refine (List.Perm.append ?_ ?_).append ?_
  · simp only [declaredOwnerEdges, ownerKey_congr hkeys]
    exact hmembers.map _
  · refine (hmembers.flatMap_right _).trans (List.Perm.flatMap_left _ ?_)
    intro r _
    exact hmembers.flatMap_right _
  · simp only [declaredRelationEdges, hkeys]
    exact hmembers.flatMap_right _

end Links

namespace Lineage

open Links

/-- Two linked lineages of one cluster hold the same resources, in any order. -/
structure Reordered (g g' : Lineage) : Prop where
  linked : g.isLinked = true
  linked' : g'.isLinked = true
  root_eq : g.root = g'.root
  members_perm : g.members.Perm g'.members

/-- Two numbers in two lineages belong to the same key. -/
def SameNode (g g' : Lineage) (i j : Nat) : Prop :=
  ∃ k, g.keyAt? i = some k ∧ g'.keyAt? j = some k

/-- Numbers in two lineages belong to the same nodes. -/
def SameNodes (g g' : Lineage) (s s' : List Nat) : Prop :=
  ∀ i j, SameNode g g' i j → (i ∈ s ↔ j ∈ s')

variable {g g' : Lineage} {i i' j j' : Nat} {type : EdgeType}

theorem SameNode.symm (h : SameNode g g' i j) : SameNode g' g j i := by
  obtain ⟨k, hi, hj⟩ := h
  exact ⟨k, hj, hi⟩

theorem SameNode.keyAt?_eq (h : SameNode g g' i j) : g.keyAt? i = g'.keyAt? j := by
  obtain ⟨k, hi, hj⟩ := h
  rw [hi, hj]

theorem SameNode.lt_size_iff (h : SameNode g g' i j) : i < g.size ↔ j < g'.size := by
  obtain ⟨k, hi, hj⟩ := h
  exact ⟨fun _ => lt_size_of_keyAt? hj, fun _ => lt_size_of_keyAt? hi⟩

theorem SameNode.eq_iff
    (h : SameNode g g' i j)
    (h' : SameNode g g' i' j') :
    i = i' ↔ j = j' := by
  obtain ⟨k, hi, hj⟩ := h
  obtain ⟨k', hi', hj'⟩ := h'
  constructor
  · rintro rfl
    obtain rfl := Option.some.inj (hi.symm.trans hi')
    exact keyAt?_inj hj hj'
  · rintro rfl
    obtain rfl := Option.some.inj (hj.symm.trans hj')
    exact keyAt?_inj hi hi'

theorem SameNode.ne_iff
    (h : SameNode g g' i j)
    (h' : SameNode g g' i' j') :
    i ≠ i' ↔ j ≠ j' :=
  not_congr (h.eq_iff h')

theorem SameNode.singleton (h : SameNode g g' i j) : SameNodes g g' [i] [j] := by
  intro i' j' h'
  rw [List.mem_singleton, List.mem_singleton]
  exact h'.eq_iff h

namespace Reordered

variable (h : g.Reordered g')
include h

theorem symm : g'.Reordered g :=
  ⟨h.linked', h.linked, h.root_eq.symm, h.members_perm.symm⟩

theorem mem_keys_iff {k : Text} : k ∈ g.keys ↔ k ∈ g'.keys := by
  have hperm : g.nodes.Perm g'.nodes := by
    rw [nodes, nodes, h.root_eq]
    exact h.members_perm.cons _
  exact (hperm.map Resource.key).mem_iff

theorem exists_sameNode (hi : i < g.size) : ∃ j, SameNode g g' i j := by
  obtain ⟨k, hk⟩ := exists_keyAt? hi
  obtain ⟨j, hj⟩ := Lineage.mem_keys_iff.mp (h.mem_keys_iff.mp (Lineage.mem_keys_iff.mpr ⟨i, hk⟩))
  exact ⟨j, k, hk, hj⟩

theorem sameNode_zero : SameNode g g' 0 0 :=
  ⟨g.root.key, keyAt?_zero g, h.root_eq ▸ keyAt?_zero g'⟩

/-- One key belongs to one resource in both. -/
theorem getElem?_eq (hij : SameNode g g' i j) : g.nodes[i]? = g'.nodes[j]? := by
  obtain ⟨k, hi, hj⟩ := hij
  obtain ⟨r, hr, hrk⟩ := keyAt?_eq_some_iff.mp hi
  obtain ⟨s, hs, hsk⟩ := keyAt?_eq_some_iff.mp hj
  rw [hr, hs]
  congr 1
  have hzero : 0 = i ↔ 0 = j := h.sameNode_zero.eq_iff ⟨k, hi, hj⟩
  by_cases hi0 : 0 = i
  · obtain rfl := hi0
    obtain rfl : 0 = j := hzero.mp rfl
    obtain rfl : g.root = r := Option.some.inj hr
    obtain rfl : g'.root = s := Option.some.inj hs
    exact h.root_eq
  · have hr' : r ∈ g'.members :=
      h.members_perm.mem_iff.mp (mem_members_iff.mpr ⟨i, Ne.symm hi0, hr⟩)
    have hs' : s ∈ g'.members :=
      mem_members_iff.mpr ⟨j, Ne.symm fun hj0 => hi0 (hzero.mpr hj0), hs⟩
    exact key_inj_of_mem_members hr' hs' (hrk.trans hsk.symm)

/-- The same nodes are joined. -/
theorem mem_edges_iff
    (hij : SameNode g g' i j)
    (hij' : SameNode g g' i' j') :
    (⟨i, i', type⟩ : Edge) ∈ g.edges ↔ (⟨j, j', type⟩ : Edge) ∈ g'.edges := by
  obtain ⟨a, hi, hj⟩ := hij
  obtain ⟨b, hi', hj'⟩ := hij'
  rw [mem_edges_iff_of_keyAt? h.linked hi hi', mem_edges_iff_of_keyAt? h.linked' hj hj', h.root_eq]
  exact (declaredEdges_perm h.members_perm).mem_iff

/-- Whatever is owned in the one, directly or not, is owned in the other. -/
theorem transGen_owns
    (hpath : Relation.TransGen g.Owns i i')
    (hij : SameNode g g' i j)
    (hij' : SameNode g g' i' j') :
    Relation.TransGen g'.Owns j j' := by
  induction hpath generalizing j' with
  | single hstep => exact .single ((h.mem_edges_iff hij hij').mp hstep)
  | tail _ hstep ih =>
    obtain ⟨k, hk⟩ := h.exists_sameNode (hstep.source_lt_size h.linked)
    exact .tail (ih hk) ((h.mem_edges_iff hk hij').mp hstep)

theorem transGen_owns_iff
    (hij : SameNode g g' i j)
    (hij' : SameNode g g' i' j') :
    Relation.TransGen g.Owns i i' ↔ Relation.TransGen g'.Owns j j' :=
  ⟨fun hpath => h.transGen_owns hpath hij hij',
    fun hpath => h.symm.transGen_owns hpath hij.symm hij'.symm⟩

/-- The same resources are orphans. -/
theorem isOrphan_eq (hij : SameNode g g' i j) : g.isOrphan i = g'.isOrphan j := by
  have hzero : 0 = i ↔ 0 = j := h.sameNode_zero.eq_iff hij
  by_cases hi : 0 = i
  · obtain rfl := hi
    obtain rfl : 0 = j := hzero.mp rfl
    rw [isOrphan_zero g h.linked, isOrphan_zero g' h.linked']
  · have hj : 0 ≠ j := fun hj => hi (hzero.mpr hj)
    obtain ⟨k, hk, -⟩ := id hij
    obtain ⟨x, hx, -⟩ := keyAt?_eq_some_iff.mp hk
    have hx' : g'.nodes[j]? = some x := (h.getElem?_eq hij).symm.trans hx
    rw [Bool.eq_iff_iff, isOrphan_iff h.linked (Ne.symm hi) hx,
      isOrphan_iff h.linked' (Ne.symm hj) hx', h.root_eq]
    constructor
    · intro horphan
      exact horphan.of_lessUse (declaredFacts_lessUse h.members_perm.symm.subset x)
    · intro horphan
      exact horphan.of_lessUse (declaredFacts_lessUse h.members_perm.subset x)

end Reordered

variable {s s' : List Nat}

theorem SameNodes.symm (h : SameNodes g g' s s') : SameNodes g' g s' s :=
  fun j i hij => (h i j hij.symm).symm

namespace Reordered

variable (h : g.Reordered g')
include h

/-- What holds of one of some nodes holds of the same node in the other lineage. -/
theorem exists_mem_of_sameNodes
    {P P' : Nat → Prop}
    (hsame : SameNodes g g' s s')
    (hlt : ∀ i, P i → i < g.size)
    (hP : ∀ i j, SameNode g g' i j → P i → P' j)
    (hex : ∃ i ∈ s, P i) :
    ∃ j ∈ s', P' j := by
  obtain ⟨i, hi, hPi⟩ := hex
  obtain ⟨j, hij⟩ := h.exists_sameNode (hlt i hPi)
  exact ⟨j, (hsame i j hij).mp hi, hP i j hij hPi⟩

theorem exists_mem_iff_of_sameNodes
    {P P' : Nat → Prop}
    (hsame : SameNodes g g' s s')
    (hlt : ∀ i, P i → i < g.size)
    (hlt' : ∀ j, P' j → j < g'.size)
    (hP : ∀ i j, SameNode g g' i j → (P i ↔ P' j)) :
    (∃ i ∈ s, P i) ↔ ∃ j ∈ s', P' j :=
  ⟨h.exists_mem_of_sameNodes hsame hlt fun i j hij => (hP i j hij).mp,
    h.symm.exists_mem_of_sameNodes hsame.symm hlt' fun j i hji => (hP i j hji.symm).mpr⟩

/-- The same nodes have the same keys. -/
theorem filterMap_keyAt?_perm
    (hs : s.Nodup)
    (hs' : s'.Nodup)
    (hsame : SameNodes g g' s s') :
    (s.filterMap g.keyAt?).Perm (s'.filterMap g'.keyAt?) := by
  rw [List.perm_ext_iff_of_nodup (nodup_filterMap_keyAt? g hs) (nodup_filterMap_keyAt? g' hs')]
  intro k
  rw [List.mem_filterMap, List.mem_filterMap]
  exact h.exists_mem_iff_of_sameNodes hsame (fun _ => lt_size_of_keyAt?)
    (fun _ => lt_size_of_keyAt?) (fun _ _ hij => by rw [hij.keyAt?_eq])

theorem sortedKeys_eq
    (hs : s.Nodup)
    (hs' : s'.Nodup)
    (hsame : SameNodes g g' s s') :
    g.sortedKeys s = g'.sortedKeys s' :=
  Text.sorted_eq_of_perm (h.filterMap_keyAt?_perm hs hs' hsame)

theorem successors_sameNodes (hij : SameNode g g' i j) (type : EdgeType) :
    SameNodes g g' (g.successors i type) (g'.successors j type) := by
  intro i' j' hij'
  rw [mem_successors, mem_successors]
  exact h.mem_edges_iff hij hij'

end Reordered

end Lineage

end ClusterLineage
