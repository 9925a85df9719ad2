import ClusterLineage.Proofs.Batch.ReorderedViews
import ClusterLineage.Proofs.Lineage.Selections
import ClusterLineage.Proofs.Ownership.Check

/-!
# Queries to the same resources in another order

Each step by which a selection grows leads from the same nodes to the same nodes.  So what is
related to a key, and what a change to it affects, does not depend on the order of the resources,
and neither does whether ownership runs around a cycle.
-/

namespace ClusterLineage.Lineage

variable {g g' : Lineage} {i j : Nat} {s s' : Selection}

/-- Every owner is a node, also one that is not direct. -/
theorem source_lt_size_of_transGen
    (hg : g.isLinked = true)
    (h : Relation.TransGen g.Owns i j) :
    i < g.size := by
  obtain ⟨c, hc, -⟩ := Relation.TransGen.head'_iff.mp h
  exact hc.source_lt_size hg

theorem target_lt_size_of_transGen
    (hg : g.isLinked = true)
    (h : Relation.TransGen g.Owns i j) :
    j < g.size := by
  obtain ⟨p, -, hp⟩ := Relation.TransGen.tail'_iff.mp h
  exact hp.lt_size hg

namespace Reordered

variable (h : g.Reordered g')
include h

theorem sameNodes_withAncestors (hs : SameNodes g g' s s') :
    SameNodes g g' (g.withAncestors s) (g'.withAncestors s') := by
  intro i j hij
  have habove := h.exists_mem_iff_of_sameNodes hs
    (fun _ hy => target_lt_size_of_transGen h.linked hy)
    (fun _ hy => target_lt_size_of_transGen h.linked' hy)
    (fun _ _ hy => h.transGen_owns_iff hij hy)
  rw [mem_withAncestors h.linked, mem_withAncestors h.linked', hij.lt_size_iff, hs i j hij,
    hij.ne_iff h.sameNode_zero, habove]

theorem sameNodes_withDescendants (hs : SameNodes g g' s s') :
    SameNodes g g' (g.withDescendants s) (g'.withDescendants s') := by
  intro i j hij
  have hbelow := h.exists_mem_iff_of_sameNodes hs
    (fun _ hy => source_lt_size_of_transGen h.linked hy)
    (fun _ hy => source_lt_size_of_transGen h.linked' hy)
    (fun _ _ hy => h.transGen_owns_iff hy hij)
  rw [mem_withDescendants h.linked, mem_withDescendants h.linked', hij.lt_size_iff, hs i j hij,
    hij.ne_iff h.sameNode_zero, hbelow]

theorem sameNodes_withReferences (hs : SameNodes g g' s s') :
    SameNodes g g' (g.withReferences s) (g'.withReferences s') := by
  intro i j hij
  have hreferenced : (∃ y ∈ s, (⟨y, i, .references⟩ : Edge) ∈ g.edges) ↔
      ∃ y ∈ s', (⟨y, j, .references⟩ : Edge) ∈ g'.edges :=
    h.exists_mem_iff_of_sameNodes hs
      (fun _ hy => (ends_lt_size_of_mem_edges h.linked hy).1)
      (fun _ hy => (ends_lt_size_of_mem_edges h.linked' hy).1)
      (fun _ _ hy => h.mem_edges_iff hy hij)
  rw [mem_withReferences, mem_withReferences, hij.lt_size_iff, hs i j hij,
    hij.ne_iff h.sameNode_zero, hreferenced]

/-- The same keys are related to a key. -/
theorem relatedKeys_eq (key : Text) : g.relatedKeys key = g'.relatedKeys key := by
  rcases h.indexOf?_cases key with ⟨hnone, hnone'⟩ | ⟨i, j, hi, hj, hij⟩
  · rw [relatedKeys, relatedKeys, hnone, hnone']
  · simp only [relatedKeys, hi, hj]
    apply h.sortedKeys_eq (nodup_relatedTo g i) (nodup_relatedTo g' j)
    intro i' j' hij'
    have hgrown := h.sameNodes_withReferences
      (h.sameNodes_withDescendants (h.sameNodes_withAncestors hij.singleton))
    rw [mem_relatedTo, mem_relatedTo, hgrown i' j' hij', hij'.ne_iff h.sameNode_zero]

theorem sameNodes_referrers (hij : SameNode g g' i j) :
    SameNodes g g' (g.referrers i) (g'.referrers j) := by
  intro i' j' hij'
  rw [mem_referrers, mem_referrers, h.mem_edges_iff hij' hij, hij'.ne_iff hij,
    hij'.ne_iff h.sameNode_zero]

theorem sameNodes_ownedBelow
    (hij : SameNode g g' i j)
    (hs : SameNodes g g' s s') :
    SameNodes g g' (g.ownedBelow i s) (g'.ownedBelow j s') := by
  intro i' j' hij'
  have hbelow := h.exists_mem_iff_of_sameNodes hs
    (fun _ hy => source_lt_size_of_transGen h.linked hy)
    (fun _ hy => source_lt_size_of_transGen h.linked' hy)
    (fun _ _ hy => h.transGen_owns_iff hy hij')
  rw [mem_ownedBelow h.linked, mem_ownedBelow h.linked', hij'.lt_size_iff,
    hij'.ne_iff hij, hij'.ne_iff h.sameNode_zero, hs i' j' hij', hbelow]

/-- A change to a key affects the same. -/
theorem impactOf_eq (key : Text) : g.impactOf key = g'.impactOf key := by
  rcases h.indexOf?_cases key with ⟨hnone, hnone'⟩ | ⟨i, j, hi, hj, hij⟩
  · rw [impactOf, impactOf, hnone, hnone']
  · rw [impactOf_eq_of_indexOf? hi, impactOf_eq_of_indexOf? hj]
    apply Text.sortedBy_eq_of_perm
    · have hdirect := h.sameNodes_referrers hij
      have hbelow := h.sameNodes_ownedBelow hij hdirect
      have hkeys := h.filterMap_keyAt?_perm (nodup_referrers g i) (nodup_referrers g' j) hdirect
      have hkeys' := h.filterMap_keyAt?_perm (nodup_ownedBelow g i _) (nodup_ownedBelow g' j _)
        hbelow
      exact (hkeys.map _).append (hkeys'.map _)
    · intro a ha b hb hkey
      exact eq_of_mem_impacts h.linked ha hb hkey

theorem not_onCycle
    (hnone : ∀ i < g.size, ¬OnCycle g.Owns i)
    (hj : j < g'.size) :
    ¬OnCycle g'.Owns j := by
  intro hcycle
  obtain ⟨i, hji⟩ := h.symm.exists_sameNode hj
  exact hnone i (hji.lt_size_iff.mp hj) (h.symm.transGen_owns hcycle hji hji)

/-- Ownership runs around a cycle in both or in neither. -/
theorem cycleKeys?_eq_none_iff : g.cycleKeys? = none ↔ g'.cycleKeys? = none := by
  rw [cycleKeys?, cycleKeys?, Option.map_eq_none_iff, Option.map_eq_none_iff,
    ownershipCycle?_eq_none_iff h.linked, ownershipCycle?_eq_none_iff h.linked']
  exact ⟨fun hnone _ hj => h.not_onCycle hnone hj, fun hnone _ hi => h.symm.not_onCycle hnone hi⟩

end Reordered

end ClusterLineage.Lineage
