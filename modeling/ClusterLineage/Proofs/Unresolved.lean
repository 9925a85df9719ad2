import ClusterLineage.Proofs.Lineage.Neighbours
import ClusterLineage.Proofs.Text.Sorted
import ClusterLineage.Unresolved

/-!
# The report does not depend on the order of the resources

References that lead nowhere are reported by kind, target and source.  References that agree in all
three come from one resource, so their order in the report is the order in which that resource
declares them, wherever it stands in the batch.
-/

namespace ClusterLineage.Unresolved

variable {a b c : Unresolved} {us us' : List Unresolved}

theorem precedes_of_target_eq (h : a.target = b.target) : a.precedes b = a.source.le b.source := by
  rw [precedes, if_pos h]

theorem precedes_of_target_ne (h : a.target ≠ b.target) : a.precedes b = a.target.le b.target := by
  rw [precedes, if_neg h]

theorem target_le_of_precedes (h : a.precedes b = true) : a.target.le b.target = true := by
  by_cases hab : a.target = b.target
  · rw [hab]
    exact Text.codesLe_refl _
  · rwa [precedes_of_target_ne hab] at h

theorem precedes_total (a b : Unresolved) : (a.precedes b || b.precedes a) = true := by
  by_cases hab : a.target = b.target
  · rw [precedes_of_target_eq hab, precedes_of_target_eq hab.symm]
    exact Text.le_total_bool a.source b.source
  · rw [precedes_of_target_ne hab, precedes_of_target_ne (Ne.symm hab)]
    exact Text.le_total_bool a.target b.target

theorem precedes_trans
    (hab : a.precedes b = true)
    (hbc : b.precedes c = true) :
    a.precedes c = true := by
  by_cases hac : a.target = c.target
  · -- all three targets are the same
    have hb : a.target = b.target := by
      apply Text.le_antisymm (target_le_of_precedes hab)
      rw [hac]
      exact target_le_of_precedes hbc
    rw [precedes_of_target_eq hb] at hab
    rw [precedes_of_target_eq (hb.symm.trans hac)] at hbc
    rw [precedes_of_target_eq hac]
    exact Text.le_trans hab hbc
  · rw [precedes_of_target_ne hac]
    exact Text.le_trans (target_le_of_precedes hab) (target_le_of_precedes hbc)

/-- References that may stand on either side of each other come from one resource. -/
theorem source_eq_of_precedes
    (hab : a.precedes b = true)
    (hba : b.precedes a = true) :
    a.source = b.source := by
  have htarget : a.target = b.target :=
    Text.le_antisymm (target_le_of_precedes hab) (target_le_of_precedes hba)
  rw [precedes_of_target_eq htarget] at hab
  rw [precedes_of_target_eq htarget.symm] at hba
  exact Text.le_antisymm hab hba

theorem ties_precedes_eq (a : Unresolved) (us : List Unresolved) :
    ties precedes a us = ties precedes a (us.filter fun u => u.source == a.source) := by
  rw [ties, ties, List.filter_filter]
  apply List.filter_congr
  intro u _
  rw [Bool.eq_iff_iff]
  simp only [Bool.and_eq_true, beq_iff_eq]
  constructor
  · rintro ⟨hau, hua⟩
    exact ⟨⟨hau, hua⟩, (source_eq_of_precedes hau hua).symm⟩
  · exact And.left

/-- Reports of the same references are the same if the references of each resource come in the same
order. -/
theorem report_eq_of_perm
    (hperm : us.Perm us')
    (hsources : ∀ k, (us.filter fun u => u.source == k) = us'.filter fun u => u.source == k) :
    report us = report us' := by
  have hkinds : Text.sorted (us.map kind).eraseDups = Text.sorted (us'.map kind).eraseDups := by
    apply Text.sorted_eq_of_mem_iff (nodup_eraseDups _) (nodup_eraseDups _)
    intro k
    rw [List.mem_eraseDups, List.mem_eraseDups]
    exact (hperm.map kind).mem_iff
  rw [report, report, hkinds]
  apply List.map_congr_left
  intro k _
  congr 1
  apply mergeSort_eq_of_perm
  · intro a b c
    exact precedes_trans
  · exact precedes_total
  · exact hperm.filter _
  · intro a
    rw [ties_precedes_eq, ties_precedes_eq a (us'.filter _), List.filter_comm, hsources,
      List.filter_comm]

end ClusterLineage.Unresolved
