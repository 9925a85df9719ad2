import ClusterLineage.Lineage.Impact
import ClusterLineage.Lineage.Selection
import ClusterLineage.Proofs.Lineage.Neighbours
import ClusterLineage.Proofs.Ownership.Walks

/-!
# What a selection grows to

Each step of growth as a condition on single nodes: a node is added if it is above or below a
selected one, or if a selected one references it.  The cluster is never added.
-/

namespace ClusterLineage.Lineage

variable {g : Lineage} {s : Selection} {i x : Nat}

theorem mem_extend {added : List Nat} :
    x ∈ g.extend s added ↔ x < g.size ∧ (x ∈ s ∨ x ≠ 0 ∧ x ∈ added) := by
  simp only [extend, List.mem_filter, List.mem_range, Bool.or_eq_true, Bool.and_eq_true,
    List.contains_iff_mem, bne_iff_ne]

theorem nodup_extend (g : Lineage) (s : Selection) (added : List Nat) :
    (g.extend s added).Nodup :=
  List.nodup_range.filter _

theorem mem_withAncestors (hg : g.isLinked = true) :
    x ∈ g.withAncestors s ↔
      x < g.size ∧ (x ∈ s ∨ x ≠ 0 ∧ ∃ y ∈ s, Relation.TransGen g.Owns x y) := by
  rw [withAncestors, mem_extend, List.mem_flatMap]
  refine and_congr_right' (or_congr_right' fun hx => and_congr_right fun hzero => ?_)
  refine exists_congr fun y => and_congr_right fun hy => ?_
  rw [mem_ancestors hg (ne_of_mem_of_not_mem hy hx).symm, and_iff_right hzero]

theorem mem_withDescendants (hg : g.isLinked = true) :
    x ∈ g.withDescendants s ↔
      x < g.size ∧ (x ∈ s ∨ x ≠ 0 ∧ ∃ y ∈ s, Relation.TransGen g.Owns y x) := by
  rw [withDescendants, mem_extend, List.mem_flatMap]
  refine and_congr_right' (or_congr_right' fun hx => and_congr_right' ?_)
  refine exists_congr fun y => and_congr_right fun hy => ?_
  rw [mem_descendants hg (ne_of_mem_of_not_mem hy hx).symm]

theorem mem_withReferences :
    x ∈ g.withReferences s ↔
      x < g.size ∧ (x ∈ s ∨ x ≠ 0 ∧ ∃ y ∈ s, (⟨y, x, .references⟩ : Edge) ∈ g.edges) := by
  simp only [withReferences, mem_extend, List.mem_flatMap, mem_successors]

theorem mem_relatedTo :
    x ∈ g.relatedTo i ↔
      x ∈ g.withReferences (g.withDescendants (g.withAncestors [i])) ∧ x ≠ 0 := by
  simp [relatedTo, Selection.shown]

theorem nodup_relatedTo (g : Lineage) (i : Nat) : (g.relatedTo i).Nodup :=
  (nodup_extend g _ _).filter _

theorem mem_referrers :
    x ∈ g.referrers i ↔ (⟨x, i, .references⟩ : Edge) ∈ g.edges ∧ x ≠ i ∧ x ≠ 0 := by
  rw [referrers, mem_unvisited, mem_predecessors, List.mem_cons, List.mem_singleton, not_or]

theorem nodup_referrers (g : Lineage) (i : Nat) : (g.referrers i).Nodup :=
  nodup_unvisited _ _

theorem mem_ownedBelow
    (hg : g.isLinked = true)
    {above : List Nat} :
    x ∈ g.ownedBelow i above ↔
      x < g.size ∧ x ≠ i ∧ x ≠ 0 ∧ x ∉ above ∧ ∃ y ∈ above, Relation.TransGen g.Owns y x := by
  rw [ownedBelow, mem_unvisited, List.mem_flatMap, List.mem_append, List.mem_cons,
    List.mem_singleton, not_or, not_or]
  constructor
  · rintro ⟨⟨y, hy, hx⟩, hnew, hxi, hzero⟩
    have hbelow := (mem_descendants hg (ne_of_mem_of_not_mem hy hnew).symm).mp hx
    obtain ⟨p, -, hp⟩ := Relation.TransGen.tail'_iff.mp hbelow
    exact ⟨hp.lt_size hg, hxi, hzero, hnew, y, hy, hbelow⟩
  · rintro ⟨-, hxi, hzero, hnew, y, hy, hbelow⟩
    have hx := (mem_descendants hg (ne_of_mem_of_not_mem hy hnew).symm).mpr hbelow
    exact ⟨⟨y, hy, hx⟩, hnew, hxi, hzero⟩

theorem nodup_ownedBelow (g : Lineage) (i : Nat) (above : List Nat) :
    (g.ownedBelow i above).Nodup :=
  nodup_unvisited _ _

/-- What a change to a node affects, as it is found. -/
def impacts (g : Lineage) (i : Nat) : List Impact :=
  ((g.referrers i).filterMap g.keyAt?).map (fun k => ⟨k, .references⟩) ++
    ((g.ownedBelow i (g.referrers i)).filterMap g.keyAt?).map fun k => ⟨k, .ownedByAffected⟩

theorem impactOf_eq_of_indexOf?
    {key : Text}
    (hi : g.indexOf? key = some i) :
    g.impactOf key = Text.sortedBy Impact.key (g.impacts i) := by
  simp only [impactOf, hi]
  rfl

theorem mem_impacts {k : Text} {reason : ImpactReason} :
    ⟨k, reason⟩ ∈ g.impacts i ↔
      ∃ x, g.keyAt? x = some k ∧
        (reason = .references ∧ x ∈ g.referrers i ∨
          reason = .ownedByAffected ∧ x ∈ g.ownedBelow i (g.referrers i)) := by
  simp only [impacts, List.mem_append, List.mem_map, List.mem_filterMap, Impact.mk.injEq]
  constructor
  · rintro (⟨k', ⟨x, hx, hxk⟩, rfl, rfl⟩ | ⟨k', ⟨x, hx, hxk⟩, rfl, rfl⟩)
    · exact ⟨x, hxk, .inl ⟨rfl, hx⟩⟩
    · exact ⟨x, hxk, .inr ⟨rfl, hx⟩⟩
  · rintro ⟨x, hxk, ⟨rfl, hx⟩ | ⟨rfl, hx⟩⟩
    · exact .inl ⟨k, ⟨x, hx, hxk⟩, rfl, rfl⟩
    · exact .inr ⟨k, ⟨x, hx, hxk⟩, rfl, rfl⟩

/-- A resource is affected for one reason only: what references the changed one directly is not
counted again as owned by another. -/
theorem eq_of_mem_impacts
    (hg : g.isLinked = true)
    {a b : Impact}
    (ha : a ∈ g.impacts i)
    (hb : b ∈ g.impacts i)
    (hkey : a.key = b.key) :
    a = b := by
  obtain ⟨k, reason⟩ := a
  obtain ⟨k', reason'⟩ := b
  obtain rfl : k = k' := hkey
  obtain ⟨x, hx, hcase⟩ := mem_impacts.mp ha
  obtain ⟨y, hy, hcase'⟩ := mem_impacts.mp hb
  obtain rfl := keyAt?_inj hx hy
  rcases hcase with ⟨rfl, hdirect⟩ | ⟨rfl, hbelow⟩
  · rcases hcase' with ⟨rfl, -⟩ | ⟨-, hbelow⟩
    · rfl
    · exact absurd hdirect ((mem_ownedBelow hg).mp hbelow).2.2.2.1
  · rcases hcase' with ⟨-, hdirect⟩ | ⟨rfl, -⟩
    · exact absurd hdirect ((mem_ownedBelow hg).mp hbelow).2.2.2.1
    · rfl

end ClusterLineage.Lineage
