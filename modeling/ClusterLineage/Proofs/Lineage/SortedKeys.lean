import ClusterLineage.Proofs.Lineage.Numbers
import ClusterLineage.Proofs.Text.Sorted

/-!
# Sorted keys of nodes

Answers that name nodes list their keys in ascending order.  Such a list is determined by the nodes
that it names.
-/

namespace ClusterLineage.Lineage

variable {g : Lineage} {s : List Nat} {i : Nat} {k : Text}

theorem mem_sortedKeys : k ∈ g.sortedKeys s ↔ ∃ i ∈ s, g.keyAt? i = some k := by
  rw [sortedKeys, Text.mem_sorted, List.mem_filterMap]

/-- A node is listed just if it is among the nodes. -/
theorem mem_sortedKeys_iff (hk : g.keyAt? i = some k) : k ∈ g.sortedKeys s ↔ i ∈ s := by
  rw [mem_sortedKeys]
  constructor
  · rintro ⟨j, hj, hjk⟩
    rwa [keyAt?_inj hk hjk]
  · intro hi
    exact ⟨i, hi, hk⟩

/-- No key is listed twice if no number is. -/
theorem nodup_filterMap_keyAt? (g : Lineage) (hs : s.Nodup) : (s.filterMap g.keyAt?).Nodup :=
  hs.filterMap fun _ _ _ hi hi' => keyAt?_inj hi hi'

theorem ascending_sortedKeys (g : Lineage) (hs : s.Nodup) : Text.Ascending (g.sortedKeys s) :=
  Text.ascending_sorted (nodup_filterMap_keyAt? g hs)

/-- All keys in order, each once. -/
theorem ascending_sorted_keys (g : Lineage) : Text.Ascending (Text.sorted g.keys) :=
  Text.ascending_sorted g.keys_nodup

theorem length_sorted_keys (g : Lineage) : (Text.sorted g.keys).length = g.size := by
  rw [Text.sorted, List.length_mergeSort, keys, List.length_map, size]

end ClusterLineage.Lineage
