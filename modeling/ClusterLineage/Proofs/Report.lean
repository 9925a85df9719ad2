import ClusterLineage.Proofs.Lineage.DeclaredPairs
import ClusterLineage.Proofs.Unresolved

/-!
# Grouping loses nothing

References that lead nowhere are grouped by the kind of their target twice: in a table of targets
for one resource, and in the report for all.  Either way every reference is in the group of its kind
exactly once, and there is no group without references.
-/

namespace ClusterLineage.Unresolved

variable {us group : List Unresolved} {a b u : Unresolved} {k : Text} {ts : List Text}

/-- The groups of some references by kind hold each of them once. -/
theorem flatMap_filter_kind_perm
    {kinds : List Text}
    (hkinds : kinds.Nodup)
    (hmem : ∀ u ∈ us, u.kind ∈ kinds) :
    (kinds.flatMap fun k => us.filter fun u => u.kind == k).Perm us := by
  rw [List.perm_iff_count]
  intro u
  by_cases hu : u ∈ us
  · rw [count_flatMap_of_nodup hkinds (hmem u hu)]
    · exact List.count_filter (beq_self_eq_true u.kind)
    · intro k _ huk
      exact (beq_iff_eq.mp (List.mem_filter.mp huk).2).symm
  · have hnone : u ∉ kinds.flatMap fun k => us.filter fun u => u.kind == k := by
      intro h
      obtain ⟨k, -, huk⟩ := List.mem_flatMap.mp h
      exact hu (List.mem_of_mem_filter huk)
    rw [List.count_eq_zero_of_not_mem hu, List.count_eq_zero_of_not_mem hnone]

/-! ## Targets by kind -/

theorem nodup_kinds_targetsByKind (us : List Unresolved) :
    ((targetsByKind us).map Prod.fst).Nodup := by
  have hkinds : (targetsByKind us).map Prod.fst = (us.map kind).eraseDups := by
    rw [targetsByKind, List.map_map]
    exact List.map_id _
  rw [hkinds]
  exact nodup_eraseDups _

/-- The targets of a kind are those of all references to it, in their order, if there are any. -/
theorem mem_targetsByKind_iff :
    (k, ts) ∈ targetsByKind us ↔ ts ≠ [] ∧ ts = (us.filter fun u => u.kind = k).map target := by
  simp only [targetsByKind, List.mem_map, List.mem_eraseDups, Prod.mk.injEq]
  constructor
  · intro h
    obtain ⟨-, ⟨u, hu, rfl⟩, rfl, rfl⟩ := h
    have hfound : u ∈ us.filter fun v => v.kind == u.kind :=
      List.mem_filter.mpr ⟨hu, beq_self_eq_true _⟩
    exact ⟨List.ne_nil_of_mem (List.mem_map_of_mem hfound), rfl⟩
  · intro h
    obtain ⟨hne, rfl⟩ := h
    obtain ⟨t, ht⟩ := List.exists_mem_of_ne_nil _ hne
    obtain ⟨u, hu, -⟩ := List.mem_map.mp ht
    obtain ⟨hu, huk⟩ := List.mem_filter.mp hu
    exact ⟨k, ⟨u, hu, of_decide_eq_true huk⟩, rfl, rfl⟩

/-! ## The report -/

theorem map_fst_report (us : List Unresolved) :
    (report us).map Prod.fst = Text.sorted (us.map kind).eraseDups := by
  rw [report, List.map_map]
  exact List.map_id _

theorem mem_report_iff :
    (k, group) ∈ report us ↔
      (∃ u ∈ us, u.kind = k) ∧ group = (us.filter (·.kind == k)).mergeSort precedes := by
  simp only [report, List.mem_map, Text.mem_sorted, List.mem_eraseDups, Prod.mk.injEq]
  constructor
  · intro h
    obtain ⟨k, hk, rfl, rfl⟩ := h
    exact ⟨hk, rfl⟩
  · intro h
    exact ⟨k, h.1, rfl, h.2.symm⟩

theorem flatten_report_perm (us : List Unresolved) : ((report us).flatMap Prod.snd).Perm us := by
  have hkinds : (Text.sorted (us.map kind).eraseDups).Nodup :=
    (List.mergeSort_perm _ _).nodup_iff.mpr (nodup_eraseDups _)
  have hmem : ∀ u ∈ us, u.kind ∈ Text.sorted (us.map kind).eraseDups := fun u hu =>
    Text.mem_sorted.mpr (List.mem_eraseDups.mpr (List.mem_map_of_mem hu))
  rw [report, List.flatMap_map]
  exact (List.Perm.flatMap_left _ fun k _ => List.mergeSort_perm _ _).trans
    (flatMap_filter_kind_perm hkinds hmem)

/-- One reference comes before another by its target, and if both have one target, by its source. -/
def Before (a b : Unresolved) : Prop :=
  a.target.le b.target = true ∧ (a.target = b.target → a.source.le b.source = true)

theorem before_of_precedes (h : a.precedes b = true) : Before a b := by
  refine ⟨target_le_of_precedes h, fun htarget => ?_⟩
  rwa [precedes_of_target_eq htarget] at h

theorem precedes_of_eq (htarget : a.target = b.target) (hsource : a.source = b.source) :
    a.precedes b = true := by
  rw [precedes_of_target_eq htarget, hsource]
  exact Text.codesLe_refl _

theorem ties_precedes (a : Unresolved) (us : List Unresolved) :
    ties precedes a us = us.filter fun u => u.target = a.target ∧ u.source = a.source := by
  apply List.filter_congr
  intro u _
  rw [Bool.eq_iff_iff, decide_eq_true_eq, Bool.and_eq_true]
  constructor
  · intro h
    have htarget : u.target = a.target :=
      Text.le_antisymm (target_le_of_precedes h.2) (target_le_of_precedes h.1)
    exact ⟨htarget, source_eq_of_precedes h.2 h.1⟩
  · intro h
    exact ⟨precedes_of_eq h.1.symm h.2.symm, precedes_of_eq h.1 h.2⟩

/-- References with one target and one source keep their order. -/
theorem filter_target_source_mergeSort (us : List Unresolved) (target source : Text) :
    ((us.mergeSort precedes).filter fun u => u.target = target ∧ u.source = source) =
      us.filter fun u => u.target = target ∧ u.source = source := by
  have hties (us : List Unresolved) :
      (us.filter fun u => u.target = target ∧ u.source = source) =
        ties precedes ⟨source, "", target, none⟩ us :=
    (ties_precedes ⟨source, "", target, none⟩ us).symm
  rw [hties, hties]
  apply ties_mergeSort
  · intro a b c
    exact precedes_trans
  · exact precedes_total

/-- Groups hold some references by kind: the kinds ascend, every reference is in the group of its
kind, ordered by target and source, and references that agree in these keep their order. -/
structure Partitioned (us : List Unresolved) (groups : List (Text × List Unresolved)) : Prop where
  ascending : Text.Ascending (groups.map Prod.fst)
  perm : (groups.flatMap Prod.snd).Perm us
  of_kind : ∀ k group, (k, group) ∈ groups → group ≠ [] ∧ ∀ u ∈ group, u.kind = k
  ordered : ∀ k group, (k, group) ∈ groups → group.Pairwise Before
  stable : ∀ k group, (k, group) ∈ groups → ∀ target source,
    (group.filter fun u => u.target = target ∧ u.source = source) =
      us.filter fun u => u.kind = k ∧ u.target = target ∧ u.source = source

theorem partitioned_report (us : List Unresolved) : Partitioned us (report us) where
  ascending := by
    rw [map_fst_report]
    exact Text.ascending_sorted (nodup_eraseDups _)
  perm := flatten_report_perm us
  of_kind k group h := by
    obtain ⟨⟨u, hu, huk⟩, rfl⟩ := mem_report_iff.mp h
    constructor
    · have hmem : u ∈ us.filter (·.kind == k) := List.mem_filter.mpr ⟨hu, beq_iff_eq.mpr huk⟩
      exact List.ne_nil_of_mem (List.mem_mergeSort.mpr hmem)
    · intro v hv
      exact beq_iff_eq.mp (List.mem_filter.mp (List.mem_mergeSort.mp hv)).2
  ordered k group h := by
    obtain ⟨-, rfl⟩ := mem_report_iff.mp h
    have hsorted : ((us.filter (·.kind == k)).mergeSort precedes).Pairwise fun a b => a.precedes b := by
      apply List.pairwise_mergeSort
      · intro a b c
        exact precedes_trans
      · exact precedes_total
    exact hsorted.imp before_of_precedes
  stable k group h target source := by
    obtain ⟨-, rfl⟩ := mem_report_iff.mp h
    rw [filter_target_source_mergeSort, List.filter_filter]
    apply List.filter_congr
    intro u _
    rw [Bool.eq_iff_iff, Bool.and_eq_true, decide_eq_true_eq, decide_eq_true_eq, beq_iff_eq,
      and_comm]

/-- A report is written with one line for each reference. -/
theorem reportLines_eq (groups : List (Text × List Unresolved)) :
    reportLines groups = (groups.flatMap Prod.snd).map line := by
  rw [reportLines, List.map_flatMap]

end ClusterLineage.Unresolved
