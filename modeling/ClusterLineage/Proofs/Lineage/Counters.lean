import ClusterLineage.Proofs.Lineage.EdgeCounts
import ClusterLineage.Proofs.Lineage.Queries
import ClusterLineage.Proofs.Lineage.TreeView
import ClusterLineage.Proofs.Orphan.Verdict

/-!
# What linking reports

The counters and the events of a linking agree with the lineage that it leaves, whether it returns
or fails at an ownership cycle.  Orphans are only ever counted under the name of a known kind, since
kinds without a rule have none.
-/

namespace ClusterLineage.Lineage

variable {g : Lineage} {i : Nat} {x : Resource} {c : Counter} {label : Text}

/-! ## Findings -/

theorem exists_label_of_mem_findings (hc : c ∈ g.findings) :
    ∃ label, Kind.IsCountLabel label ∧ (c = .orphans label ∨ c = .unresolved label) := by
  rcases List.mem_append.mp hc with hc | hc
  · obtain ⟨u, -, rfl⟩ := List.mem_map.mp hc
    exact ⟨_, Kind.isCountLabel_countLabel u.kind, .inr rfl⟩
  · obtain ⟨r, -, rfl⟩ := List.mem_map.mp hc
    exact ⟨_, Kind.isCountLabel_countLabel r.kind, .inl rfl⟩

/-- Findings are orphans and references that lead nowhere, nothing else. -/
theorem count_findings_eq_zero
    (horphans : ∀ label, c ≠ .orphans label)
    (hunresolved : ∀ label, c ≠ .unresolved label) :
    g.findings.count c = 0 := by
  rw [List.count_eq_zero]
  intro hc
  obtain ⟨label, -, rfl | rfl⟩ := exists_label_of_mem_findings hc
  · exact horphans label rfl
  · exact hunresolved label rfl

/-- What is counted by label is counted once for each entry with the label. -/
theorem count_map_label
    {α : Type} {l : List α} {labelOf : α → Text} {counter : Text → Counter}
    (hcounter : Function.Injective counter) :
    (l.map fun a => counter (labelOf a)).count (counter label) =
      l.countP fun a => labelOf a = label := by
  rw [List.count_eq_countP, List.countP_map]
  apply List.countP_congr
  intro a _
  rw [Function.comp_apply, beq_iff_eq, hcounter.eq_iff, decide_eq_true_iff]

theorem count_findings_unresolved (g : Lineage) (label : Text) :
    g.findings.count (.unresolved label) =
      g.unresolved.countP fun u => Kind.countLabel u.kind = label := by
  have horphans : ((g.links.orphans.filterMap (g.nodes[·]?)).map fun r =>
      Counter.orphans (Kind.countLabel r.kind)).count (.unresolved label) = 0 := by
    simp [List.count_eq_zero]
  rw [findings, List.count_append, horphans, Nat.add_zero]
  exact count_map_label fun _ _ => Counter.unresolved.inj

theorem count_findings_orphans (g : Lineage) (label : Text) :
    g.findings.count (.orphans label) = (g.links.orphans.filterMap (g.nodes[·]?)).countP
      fun r => Kind.countLabel r.kind = label := by
  have hunresolved : (g.unresolved.map fun u => Counter.unresolved (Kind.countLabel u.kind)).count
      (.orphans label) = 0 := by
    simp [List.count_eq_zero]
  rw [findings, List.count_append, hunresolved, Nat.zero_add]
  exact count_map_label fun _ _ => Counter.orphans.inj

/-! ## Orphans -/

theorem lt_size_of_isOrphan (hg : g.isLinked = true) (h : g.isOrphan i = true) : i < g.size := by
  rw [isOrphan, List.contains_iff_mem, g.links_of_linked hg] at h
  obtain ⟨⟨x, j⟩, hx, rfl⟩ := List.mem_map.mp h
  have hnode : j ≠ 0 ∧ g.nodes[j]? = some x := Links.mem_numbered.mp (List.mem_filter.mp hx).1
  exact (List.getElem?_eq_some_iff.mp hnode.2).1

/-- Only resources of known kinds are orphans. -/
theorem exists_ofName?_of_isOrphan
    (hg : g.isLinked = true)
    (hx : g.nodes[i]? = some x)
    (horphan : g.isOrphan i = true) :
    ∃ k, Kind.ofName? x.kind = some k := by
  have hi : i ≠ 0 := by
    rintro rfl
    rw [isOrphan_zero g hg] at horphan
    cases horphan
  obtain ⟨k, -, hkind, -⟩ := (isOrphan_iff hg hi hx).mp horphan
  exact ⟨k, Kind.ofName?_eq_some_iff.mpr hkind.symm⟩

theorem key_mem_orphanKeys_iff (hx : g.nodes[i]? = some x) :
    x.key ∈ g.orphanKeys ↔ g.isOrphan i = true :=
  (mem_sortedKeys_iff (keyAt?_of_getElem? hx)).trans mem_orphans_iff

theorem orphans_perm (hg : g.isLinked = true) :
    g.links.orphans.Perm ((List.range g.size).filter g.isOrphan) := by
  rw [List.perm_ext_iff_of_nodup (nodup_orphans hg) (List.nodup_range.filter _)]
  intro i
  rw [mem_orphans_iff, List.mem_filter, List.mem_range]
  exact ⟨fun h => ⟨lt_size_of_isOrphan hg h, h⟩, And.right⟩

theorem length_orphanKeys (hg : g.isLinked = true) :
    g.orphanKeys.length = g.links.orphans.length :=
  length_sortedKeys fun _ hi => lt_size_of_isOrphan hg (mem_orphans_iff.mp hi)

/-- A listed orphan is counted under the canonical name of its kind. -/
theorem countP_orphans (hg : g.isLinked = true) (label : Text) :
    ((g.links.orphans.filterMap (g.nodes[·]?)).countP fun r => Kind.countLabel r.kind = label) =
      g.nodes.countP fun r => r.key ∈ g.orphanKeys ∧ Kind.canonical r.kind = label := by
  rw [((orphans_perm hg).filterMap _).countP_eq, List.countP_filterMap, List.countP_filter]
  conv_rhs => rw [← filterMap_getElem?_range g.nodes, List.countP_filterMap]
  apply List.countP_congr
  intro i _
  cases hx : g.nodes[i]? with
  | none => simp
  | some x =>
    -- the label and the canonical name differ for unknown kinds only, and those have no orphans
    simp only [Option.map_some, Option.getD_some, Bool.and_eq_true, decide_eq_true_iff,
      key_mem_orphanKeys_iff hx]
    constructor
    · rintro ⟨hlabel, horphan⟩
      obtain ⟨k, hk⟩ := exists_ofName?_of_isOrphan hg hx horphan
      rw [Kind.countLabel_of_ofName? hk] at hlabel
      rw [Kind.canonical_of_ofName? hk]
      exact ⟨horphan, hlabel⟩
    · rintro ⟨horphan, hlabel⟩
      obtain ⟨k, hk⟩ := exists_ofName?_of_isOrphan hg hx horphan
      rw [Kind.canonical_of_ofName? hk] at hlabel
      rw [Kind.countLabel_of_ofName? hk]
      exact ⟨hlabel, horphan⟩

/-! ## Linking -/

/-- A linking has returned: it counts one build and one duration, and reports the size of the
lineage as its answers have it. -/
structure Returned (step : Step Unit) : Prop where
  outcome_eq : step.outcome = .ok ()
  events_eq : step.trace.events = [.lineageLinked {
    root := step.lineage.root.key
    nodes := step.lineage.size
    edges := step.lineage.orderedEdges.length
    orphans := step.lineage.orphanKeys.length
    unresolved := step.lineage.unresolved.length }]
  builds_eq : step.trace.growth .builds = 1
  failedBuilds_eq : step.trace.growth .failedBuilds = 0
  cycles_eq : step.trace.growth .cycles = 0
  durations_eq : step.trace.growth .durations = 1

/-- A linking has failed at a cycle of ownership: it counts one failed build and one cycle, and
reports the keys of the error. -/
structure FailedAt (keys : List Text) (step : Step Unit) : Prop where
  outcome_eq : step.outcome = .error (.ownershipCycle keys)
  events_eq : step.trace.events = [.cycleDetected keys]
  builds_eq : step.trace.growth .builds = 0
  failedBuilds_eq : step.trace.growth .failedBuilds = 1
  cycles_eq : step.trace.growth .cycles = 1
  durations_eq : step.trace.growth .durations = 0

/-- A trace counts the orphans and the unresolved references of a lineage by their kinds. -/
structure CountedBy (t : Trace) (g : Lineage) : Prop where
  orphans_eq : ∀ label, t.growth (.orphans label) =
    g.nodes.countP fun r => r.key ∈ g.orphanKeys ∧ Kind.canonical r.kind = label
  /-- No orphan is counted among the unknown kinds. -/
  orphans_other : t.growth (.orphans "other") = 0
  unresolved_eq : ∀ label, t.growth (.unresolved label) =
    g.unresolved.countP fun u => Kind.countLabel u.kind = label
  labels : ∀ label, .orphans label ∈ t.counters ∨ .unresolved label ∈ t.counters →
    Kind.IsCountLabel label

/-- The findings of a linked lineage count what it holds, whatever else is counted with them. -/
theorem countedBy_findings
    (hg : g.isLinked = true)
    {events : List Event} {rest : List Counter}
    (hrest : ∀ label, .orphans label ∉ rest ∧ .unresolved label ∉ rest) :
    CountedBy ⟨events, g.findings ++ rest⟩ g := by
  have horphans (label : Text) : (⟨events, g.findings ++ rest⟩ : Trace).growth (.orphans label) =
      g.nodes.countP fun r => r.key ∈ g.orphanKeys ∧ Kind.canonical r.kind = label := by
    rw [Trace.growth, List.count_append, List.count_eq_zero_of_not_mem (hrest label).1,
      Nat.add_zero, count_findings_orphans, countP_orphans hg]
  refine ⟨horphans, ?_, ?_, ?_⟩
  · rw [horphans, List.countP_eq_zero]
    intro r hr hcounted
    obtain ⟨horphan, hlabel⟩ := of_decide_eq_true hcounted
    obtain ⟨i, hi⟩ := List.mem_iff_getElem?.mp hr
    obtain ⟨k, hk⟩ := exists_ofName?_of_isOrphan hg hi ((key_mem_orphanKeys_iff hi).mp horphan)
    rw [Kind.canonical_of_ofName? hk] at hlabel
    exact Kind.name_ne_other k hlabel
  · intro label
    rw [Trace.growth, List.count_append, List.count_eq_zero_of_not_mem (hrest label).2,
      Nat.add_zero, count_findings_unresolved]
  · intro label hcounted
    have hfound : Counter.orphans label ∈ g.findings ∨ Counter.unresolved label ∈ g.findings := by
      refine hcounted.imp (fun h => ?_) (fun h => ?_)
      · exact (List.mem_append.mp h).resolve_right (hrest label).1
      · exact (List.mem_append.mp h).resolve_right (hrest label).2
    rcases hfound with h | h
    · obtain ⟨label', hlabel', h | h⟩ := exists_label_of_mem_findings h
      · exact Counter.orphans.inj h ▸ hlabel'
      · cases h
    · obtain ⟨label', hlabel', h | h⟩ := exists_label_of_mem_findings h
      · cases h
      · exact Counter.unresolved.inj h ▸ hlabel'

theorem summary_eq (hg : g.isLinked = true) :
    g.summary = ⟨g.root.key, g.size, g.orderedEdges.length, g.orphanKeys.length,
      g.unresolved.length⟩ := by
  rw [summary, (orderedEdges_perm hg).length_eq, length_orphanKeys hg]

theorem growth_of_not_finding
    {events : List Event} {rest : List Counter}
    (horphans : ∀ label, c ≠ .orphans label)
    (hunresolved : ∀ label, c ≠ .unresolved label) :
    (⟨events, g.findings ++ rest⟩ : Trace).growth c = rest.count c := by
  rw [Trace.growth, List.count_append, count_findings_eq_zero horphans hunresolved, Nat.zero_add]

theorem returned_link
    (hg : g.isLinked = false)
    {validate : Bool}
    (hacyclic : validate = false ∨ g.withLinks.cycleKeys? = none) :
    Returned (g.link validate) := by
  rw [link_of_acyclic hg hacyclic]
  refine ⟨rfl, by rw [summary_eq (isLinked_withLinks g)], ?_, ?_, ?_, ?_⟩
  all_goals
    rw [growth_of_not_finding (by simp) (by simp)]
    decide

theorem failedAt_link
    (hg : g.isLinked = false)
    {keys : List Text}
    (hcycle : g.withLinks.cycleKeys? = some keys) :
    FailedAt keys (g.link true) := by
  rw [link_of_cycle hg hcycle]
  refine ⟨rfl, rfl, ?_, ?_, ?_, ?_⟩
  all_goals
    rw [growth_of_not_finding (by simp) (by simp)]
    decide

/-- The counters and the events of the first linking of a lineage tell the truth about it.  The
linking returns or fails at a cycle of ownership, and in both cases counts what it has found. -/
theorem link_tells_truth (g : Lineage) (hg : g.isLinked = false) (validate : Bool) :
    let step := g.link validate
    (Returned step ∨ ∃ keys, FailedAt keys step) ∧ CountedBy step.trace step.lineage := by
  intro step
  have hlinked := isLinked_withLinks g
  by_cases hacyclic : validate = false ∨ g.withLinks.cycleKeys? = none
  · have hstep : step = _ := link_of_acyclic hg hacyclic
    refine ⟨.inl (returned_link hg hacyclic), ?_⟩
    rw [hstep]
    exact countedBy_findings hlinked (by simp)
  · obtain ⟨hvalidate, hcycle⟩ := not_or.mp hacyclic
    obtain rfl : validate = true := Bool.eq_true_of_not_eq_false hvalidate
    obtain ⟨keys, hcycle⟩ := Option.ne_none_iff_exists'.mp hcycle
    have hstep : step = _ := link_of_cycle hg hcycle
    refine ⟨.inr ⟨keys, failedAt_link hg hcycle⟩, ?_⟩
    rw [hstep]
    exact countedBy_findings hlinked (by simp)

/-- Two configurations own each other, in different letter cases, and a pod reads a secret that is
not there.  The linking fails, and has counted both configurations and the reference. -/
theorem link_tells_truth_configurations_own_each_other :
    let first : Resource :=
      { kind := "ConfigMap", name := "a", owners := [{ kind := "configmap", name := "b" }] }
    let second : Resource :=
      { kind := "configMap", name := "b", owners := [{ kind := "ConfigMap", name := "A" }] }
    let pod : Resource :=
      { kind := "Pod", name := "web", relations := [{ kind := "secret", name := "token" }] }
    let g := (ofRoot { kind := "cluster", name := "prod" }).addAll [first, second, pod]
    let step := g.link true
    g.isLinked = false ∧
      step.outcome = .error (.ownershipCycle ["configmap/a", "configmap/b"]) ∧
      step.trace.growth (.orphans "ConfigMap") = 2 ∧
      step.trace.growth (.unresolved "Secret") = 1 ∧
      (Returned step ∨ ∃ keys, FailedAt keys step) ∧ CountedBy step.trace step.lineage := by
  intro first second pod g step
  have hg : g.isLinked = false := isLinked_addAll _ _
  have hstep : step.outcome = .error (.ownershipCycle ["configmap/a", "configmap/b"]) ∧
      step.trace.growth (.orphans "ConfigMap") = 2 ∧
      step.trace.growth (.unresolved "Secret") = 1 := by decide +kernel
  exact ⟨hg, hstep.1, hstep.2.1, hstep.2.2, link_tells_truth g hg true⟩

end ClusterLineage.Lineage
