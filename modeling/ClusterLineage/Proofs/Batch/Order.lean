import ClusterLineage.Proofs.Batch.ReorderedQueries

/-!
# The order of a batch

A batch whose resources have different keys gives the same answers in any order.
-/

namespace ClusterLineage

/-- Two lineages give the same answers to everything that can be asked of them. -/
structure SameAnswers (g g' : Lineage) : Prop where
  tree : ∀ id, g.tree id = g'.tree id
  orphans : g.orphanKeys = g'.orphanKeys
  missing : ∀ key,
    (g.indexOf? key).map (fun i => Unresolved.targetsByKind (g.unresolvedFrom i)) =
      (g'.indexOf? key).map fun j => Unresolved.targetsByKind (g'.unresolvedFrom j)
  report : Unresolved.report g.unresolved = Unresolved.report g'.unresolved
  reportLines : Unresolved.reportLines (Unresolved.report g.unresolved) =
    Unresolved.reportLines (Unresolved.report g'.unresolved)
  related : ∀ key, g.relatedKeys key = g'.relatedKeys key
  impact : ∀ key, g.impactOf key = g'.impactOf key

namespace Lineage

variable {g g' : Lineage}

theorem Reordered.sameAnswers (h : g.Reordered g') : SameAnswers g g' where
  tree := h.tree_eq
  orphans := h.orphanKeys_eq
  missing := by
    intro key
    rcases h.indexOf?_cases key with ⟨hnone, hnone'⟩ | ⟨i, j, hi, hj, hij⟩
    · rw [hnone, hnone']
      rfl
    · rw [hi, hj, Option.map_some, Option.map_some, h.unresolvedFrom_eq hij]
  report := h.report_eq
  reportLines := congrArg Unresolved.reportLines h.report_eq
  related := h.relatedKeys_eq
  impact := h.impactOf_eq

/-- Resources with different keys are all taken in, whatever their order. -/
theorem reordered_linkAll
    {rs rs' : List Resource}
    (hperm : rs.Perm rs')
    (hkeys : (rs.map Resource.key).Nodup)
    (root : Resource)
    (validate : Bool) :
    (linkAll root rs validate).Reordered (linkAll root rs' validate) where
  linked := isLinked_linkAll root rs validate
  linked' := isLinked_linkAll root rs' validate
  root_eq := by rw [root_linkAll, root_linkAll]
  members_perm := by
    have hkeys' : (rs'.map Resource.key).Nodup := (hperm.map Resource.key).nodup_iff.mp hkeys
    rw [members_linkAll, members_linkAll, accepted_eq_filter hkeys, accepted_eq_filter hkeys']
    exact hperm.filter _

theorem outcome_build_eq_ok_iff {name : Text} {ds : List Json} {validate : Bool} :
    (build name ds validate).outcome = .ok () ↔
      validate = false ∨ (build name ds validate).lineage.cycleKeys? = none := by
  rw [outcome_build, lineage_build, linkAll_eq]
  exact outcome_link_eq_ok_iff (isLinked_addAll _ _)

theorem exists_outcome_build_eq_error_iff {name : Text} {ds : List Json} {validate : Bool} :
    (∃ keys, (build name ds validate).outcome = .error (.ownershipCycle keys)) ↔
      validate = true ∧ (build name ds validate).lineage.cycleKeys? ≠ none := by
  rw [outcome_build, lineage_build, linkAll_eq]
  exact exists_outcome_link_eq_error_iff (isLinked_addAll _ _)

/-- The order of a batch does not matter.  If the resources of some descriptors have different keys,
then with the descriptors in any order the check of ownership fails or not alike, without it nothing
fails, and the lineage gives the same answers. -/
theorem build_perm
    (name : Text)
    (ds ds' : List Json)
    (validate : Bool)
    (hperm : ds.Perm ds')
    (hkeys : ((ds.filterMap Descriptor.resource?).map Resource.key).Nodup) :
    ((build name ds validate).outcome = .ok () ↔ (build name ds' validate).outcome = .ok ()) ∧
      ((∃ keys, (build name ds validate).outcome = .error (.ownershipCycle keys)) ↔
        ∃ keys, (build name ds' validate).outcome = .error (.ownershipCycle keys)) ∧
      (validate = false → (build name ds validate).outcome = .ok ()) ∧
      SameAnswers (build name ds validate).lineage (build name ds' validate).lineage := by
  have hreordered :
      (build name ds validate).lineage.Reordered (build name ds' validate).lineage := by
    rw [lineage_build, lineage_build]
    exact reordered_linkAll (hperm.filterMap _) hkeys _ validate
  have hcycle := hreordered.cycleKeys?_eq_none_iff
  refine ⟨?_, ?_, ?_, hreordered.sameAnswers⟩
  · rw [outcome_build_eq_ok_iff, outcome_build_eq_ok_iff, hcycle]
  · rw [exists_outcome_build_eq_error_iff, exists_outcome_build_eq_error_iff, ne_eq, ne_eq, hcycle]
  · intro hvalidate
    exact outcome_build_eq_ok_iff.mpr (.inl hvalidate)

/-- Two pods that own each other and a value that describes nothing, forwards and backwards: the
check of ownership fails both times, with keys in another order. -/
theorem build_perm_owners_of_each_other :
    let pod (name owner : String) : Json :=
      .obj [("kind", .str "Pod"), ("name", .str name), ("metadata",
        .obj [("ownerReferences", .arr [.obj [("kind", .str "pod"), ("name", .str owner)]])])]
    let ds := [pod "a" "b", .null, pod "b" "a"]
    ds.Perm ds.reverse ∧
      ((ds.filterMap Descriptor.resource?).map Resource.key).Nodup ∧
      (build "prod" ds true).outcome = .error (.ownershipCycle ["pod/a", "pod/b"]) ∧
      (∃ keys, (build "prod" ds.reverse true).outcome = .error (.ownershipCycle keys)) ∧
      SameAnswers (build "prod" ds true).lineage (build "prod" ds.reverse true).lineage := by
  intro pod ds
  have hperm : ds.Perm ds.reverse := (List.reverse_perm ds).symm
  have hkeys : ((ds.filterMap Descriptor.resource?).map Resource.key).Nodup := by decide +kernel
  have houtcome : (build "prod" ds true).outcome = .error (.ownershipCycle ["pod/a", "pod/b"]) := by
    decide +kernel
  obtain ⟨-, hfails, -, hanswers⟩ := build_perm "prod" ds ds.reverse true hperm hkeys
  exact ⟨hperm, hkeys, houtcome, hfails.mp ⟨_, houtcome⟩, hanswers⟩

end Lineage

end ClusterLineage
