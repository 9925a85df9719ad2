import ClusterLineage.Lineage.Intake

/-!
# Adding resources and linking them

A lineage starts with the cluster, takes in resources one after another, and is linked.  Of the
resources with one key only the first is taken in, so what is linked is `accepted`, a list that can
be read off the resources without building anything.  Linking gives the same lineage whether or not
it checks the ownership, and also when that check fails.
-/

namespace ClusterLineage

/-- The resources of a list whose keys are not taken, of those with one key the first. -/
def accepted (taken : List Text) : List Resource → List Resource
  | [] => []
  | r :: rs =>
    if r.key ∈ taken then accepted taken rs else r :: accepted (taken ++ [r.key]) rs

theorem key_not_mem_of_mem_accepted
    {taken : List Text} {rs : List Resource} {r : Resource}
    (h : r ∈ accepted taken rs) :
    r.key ∉ taken := by
  induction rs generalizing taken with
  | nil => simp [accepted] at h
  | cons s rs ih =>
    rw [accepted] at h
    split at h
    · exact ih h
    · next hs =>
      rcases List.mem_cons.mp h with rfl | h
      · exact hs
      · intro hr
        exact ih h (List.mem_append_left _ hr)

theorem mem_of_mem_accepted
    {taken : List Text} {rs : List Resource} {r : Resource}
    (h : r ∈ accepted taken rs) :
    r ∈ rs := by
  induction rs generalizing taken with
  | nil => simp [accepted] at h
  | cons s rs ih =>
    rw [accepted] at h
    split at h
    · exact List.mem_cons_of_mem _ (ih h)
    · exact List.mem_cons.mpr ((List.mem_cons.mp h).imp_right ih)

theorem mem_map_key_accepted
    {taken : List Text} {rs : List Resource} {k : Text} :
    k ∈ (accepted taken rs).map Resource.key ↔ k ∉ taken ∧ k ∈ rs.map Resource.key := by
  induction rs generalizing taken with
  | nil => simp [accepted]
  | cons r rs ih =>
    rw [accepted, List.map_cons, List.mem_cons]
    by_cases hr : r.key ∈ taken
    · rw [if_pos hr, ih]
      constructor
      · rintro ⟨hk, hmem⟩
        exact ⟨hk, .inr hmem⟩
      · rintro ⟨hk, rfl | hmem⟩
        · exact absurd hr hk
        · exact ⟨hk, hmem⟩
    · rw [if_neg hr, List.map_cons, List.mem_cons, ih, List.mem_append, List.mem_singleton]
      by_cases hkr : k = r.key
      · simp [hkr, hr]
      · simp [hkr]

/-- If no two resources have the same key, only those are left out whose keys are taken. -/
theorem accepted_eq_filter
    {taken : List Text} {rs : List Resource}
    (hkeys : (rs.map Resource.key).Nodup) :
    accepted taken rs = rs.filter fun r => r.key ∉ taken := by
  induction rs generalizing taken with
  | nil => rfl
  | cons r rs ih =>
    rw [List.map_cons, List.nodup_cons] at hkeys
    rw [accepted]
    split
    · next hr => rw [ih hkeys.2, List.filter_cons_of_neg (by simpa using hr)]
    · next hr =>
      rw [ih hkeys.2, List.filter_cons_of_pos (by simpa using hr)]
      congr 1
      apply List.filter_congr
      intro s hs
      have hne : s.key ≠ r.key := by
        intro heq
        exact hkeys.1 (heq ▸ List.mem_map_of_mem hs)
      simp [hne]

namespace Lineage

variable {g : Lineage}

/-- A lineage after resources have been added to it one by one. -/
def addAll (g : Lineage) (rs : List Resource) : Lineage :=
  rs.foldl (fun g r => (g.add r).lineage) g

theorem addAll_cons (g : Lineage) (r : Resource) (rs : List Resource) :
    g.addAll (r :: rs) = ((g.add r).lineage).addAll rs := rfl

theorem add_of_linked (hg : g.isLinked = true) (r : Resource) :
    g.add r = ⟨.error .addAfterLink, g, {}⟩ :=
  if_pos hg

theorem add_of_fresh
    {r : Resource}
    (hg : g.isLinked = false)
    (hfresh : r.key ∉ g.keys) :
    g.add r = ⟨.ok true, g.insert r hfresh, {}⟩ := by
  rw [add, if_neg (Bool.eq_false_iff.mp hg), dif_pos hfresh]

theorem add_of_taken
    {r : Resource}
    (hg : g.isLinked = false)
    (htaken : r.key ∈ g.keys) :
    g.add r = ⟨.ok false, g, { events := [.duplicateIgnored r.key] }⟩ := by
  rw [add, if_neg (Bool.eq_false_iff.mp hg), dif_neg (not_not_intro htaken)]

/-- Adding a resource takes it in, as the last one, or changes nothing. -/
theorem lineage_add_cases (g : Lineage) (r : Resource) :
    (g.isLinked = false ∧ ∃ hfresh, (g.add r).lineage = g.insert r hfresh) ∨
      (g.add r).lineage = g := by
  cases hg : g.isLinked with
  | true => exact .inr (by rw [add_of_linked hg])
  | false =>
    by_cases hkey : r.key ∈ g.keys
    · exact .inr (by rw [add_of_taken hg hkey])
    · exact .inl ⟨rfl, hkey, by rw [add_of_fresh hg hkey]⟩

theorem isLinked_add (g : Lineage) (r : Resource) :
    (g.add r).lineage.isLinked = g.isLinked := by
  obtain ⟨hg, _, hadd⟩ | hadd := lineage_add_cases g r
  · rw [hadd, isLinked_insert, hg]
  · rw [hadd]

theorem root_add (g : Lineage) (r : Resource) : (g.add r).lineage.root = g.root := by
  obtain ⟨-, _, hadd⟩ | hadd := lineage_add_cases g r
  · rw [hadd, insert]
  · rw [hadd]

theorem isLinked_addAll (g : Lineage) (rs : List Resource) :
    (g.addAll rs).isLinked = g.isLinked := by
  induction rs generalizing g with
  | nil => rfl
  | cons r rs ih => rw [addAll_cons, ih, isLinked_add]

theorem root_addAll (g : Lineage) (rs : List Resource) : (g.addAll rs).root = g.root := by
  induction rs generalizing g with
  | nil => rfl
  | cons r rs ih => rw [addAll_cons, ih, root_add]

/-- What is added are the resources whose keys are new. -/
theorem members_addAll
    (hg : g.isLinked = false)
    (rs : List Resource) :
    (g.addAll rs).members = g.members ++ accepted g.keys rs := by
  induction rs generalizing g with
  | nil => simp [addAll, accepted]
  | cons r rs ih =>
    rw [addAll_cons, ih (by rw [isLinked_add, hg]), accepted]
    by_cases hr : r.key ∈ g.keys
    · rw [add_of_taken hg hr, if_pos hr]
    · rw [add_of_fresh hg hr, keys_insert, if_neg hr]
      simp [insert]

theorem members_addAll_ofRoot (root : Resource) (rs : List Resource) :
    ((ofRoot root).addAll rs).members = accepted [root.key] rs := by
  rw [members_addAll rfl]
  rfl

theorem link_of_unlinked
    (hg : g.isLinked = false)
    (validate : Bool) :
    g.link validate =
      match if validate then g.withLinks.cycleKeys? else none with
      | some keys =>
        ⟨.error (.ownershipCycle keys), g.withLinks,
          ⟨[.cycleDetected keys], g.withLinks.findings ++ [.cycles, .failedBuilds]⟩⟩
      | none =>
        ⟨.ok (), g.withLinks,
          ⟨[.lineageLinked g.withLinks.summary],
            g.withLinks.findings ++ [.durations, .builds]⟩⟩ :=
  if_neg (Bool.eq_false_iff.mp hg)

/-- Linking gives the linked lineage, whatever it says of the ownership. -/
theorem lineage_link
    (hg : g.isLinked = false)
    (validate : Bool) :
    (g.link validate).lineage = g.withLinks := by
  rw [link_of_unlinked hg]
  split
  · rfl
  · rfl

theorem outcome_link
    (hg : g.isLinked = false)
    (validate : Bool) :
    (g.link validate).outcome =
      match if validate then g.withLinks.cycleKeys? else none with
      | some keys => .error (.ownershipCycle keys)
      | none => .ok () := by
  rw [link_of_unlinked hg]
  cases if validate then g.withLinks.cycleKeys? else none with
  | none => rfl
  | some keys => rfl

/-- Linking fails only if it checks the ownership and there is a cycle to name. -/
theorem outcome_link_eq_error_iff
    (hg : g.isLinked = false)
    {validate : Bool}
    {e : LineageError} :
    (g.link validate).outcome = .error e ↔
      validate = true ∧ ∃ keys, g.withLinks.cycleKeys? = some keys ∧ e = .ownershipCycle keys := by
  rw [outcome_link hg]
  cases validate with
  | false => simp
  | true =>
    cases g.withLinks.cycleKeys? with
    | none => simp
    | some keys => simp [eq_comm]

theorem exists_outcome_link_eq_error_iff
    (hg : g.isLinked = false)
    {validate : Bool} :
    (∃ keys, (g.link validate).outcome = .error (.ownershipCycle keys)) ↔
      validate = true ∧ g.withLinks.cycleKeys? ≠ none := by
  simp only [outcome_link_eq_error_iff hg, Option.ne_none_iff_exists']
  constructor
  · rintro ⟨-, hvalidate, keys, hkeys, -⟩
    exact ⟨hvalidate, keys, hkeys⟩
  · rintro ⟨hvalidate, keys, hkeys⟩
    exact ⟨keys, hvalidate, keys, hkeys, rfl⟩

theorem outcome_link_eq_ok_iff
    (hg : g.isLinked = false)
    {validate : Bool} :
    (g.link validate).outcome = .ok () ↔ validate = false ∨ g.withLinks.cycleKeys? = none := by
  rw [outcome_link hg]
  cases validate with
  | false => simp
  | true =>
    cases g.withLinks.cycleKeys? with
    | none => simp
    | some keys => simp

theorem link_of_acyclic
    (hg : g.isLinked = false)
    {validate : Bool}
    (hacyclic : validate = false ∨ g.withLinks.cycleKeys? = none) :
    g.link validate = ⟨.ok (), g.withLinks, ⟨[.lineageLinked g.withLinks.summary],
      g.withLinks.findings ++ [.durations, .builds]⟩⟩ := by
  have hnone : (if validate then g.withLinks.cycleKeys? else none) = none := by
    obtain rfl | hnone := hacyclic
    · rfl
    · rw [hnone, ite_self]
  rw [link_of_unlinked hg, hnone]

theorem link_of_cycle
    (hg : g.isLinked = false)
    {keys : List Text}
    (hcycle : g.withLinks.cycleKeys? = some keys) :
    g.link true = ⟨.error (.ownershipCycle keys), g.withLinks, ⟨[.cycleDetected keys],
      g.withLinks.findings ++ [.cycles, .failedBuilds]⟩⟩ := by
  rw [link_of_unlinked hg, if_pos rfl, hcycle]

/-- The lineage of a cluster and resources, added in their order and linked. -/
def linkAll (root : Resource) (rs : List Resource) (validate : Bool) : Lineage :=
  (((ofRoot root).addAll rs).link validate).lineage

theorem linkAll_eq (root : Resource) (rs : List Resource) (validate : Bool) :
    linkAll root rs validate = ((ofRoot root).addAll rs).withLinks :=
  lineage_link (isLinked_addAll _ _) validate

theorem isLinked_linkAll (root : Resource) (rs : List Resource) (validate : Bool) :
    (linkAll root rs validate).isLinked = true := by
  rw [linkAll_eq, isLinked_withLinks]

theorem root_linkAll (root : Resource) (rs : List Resource) (validate : Bool) :
    (linkAll root rs validate).root = root := by
  rw [linkAll_eq]
  exact root_addAll _ _

theorem members_linkAll (root : Resource) (rs : List Resource) (validate : Bool) :
    (linkAll root rs validate).members = accepted [root.key] rs := by
  rw [linkAll_eq]
  exact members_addAll_ofRoot root rs

theorem mem_keys_linkAll {root : Resource} {rs : List Resource} {validate : Bool} {k : Text} :
    k ∈ (linkAll root rs validate).keys ↔ k = root.key ∨ k ∈ rs.map Resource.key := by
  rw [keys, nodes, root_linkAll, members_linkAll, List.map_cons, List.mem_cons,
    mem_map_key_accepted, List.mem_singleton]
  by_cases hk : k = root.key
  · simp [hk]
  · simp [hk]

end Lineage

/-- The resource of a descriptor, unless it is defective. -/
def Descriptor.resource? (d : Json) : Option Resource :=
  (Descriptor.read d).toOption

theorem Descriptor.resource?_eq_some_iff {d : Json} {r : Resource} :
    Descriptor.resource? d = some r ↔ Descriptor.read d = .ok r := by
  rw [resource?]
  cases Descriptor.read d with
  | error defect => simp [Except.toOption]
  | ok r => simp [Except.toOption]

/-- The cluster that a lineage is built for. -/
def Intake.rootOf (name : Text) : Resource :=
  { kind := Intake.rootKind, name := name }

/-- Taking in descriptors adds their resources. -/
theorem Intake.lineage_foldl_take (s : Intake) (ds : List Json) :
    (ds.foldl Intake.take s).lineage = s.lineage.addAll (ds.filterMap Descriptor.resource?) := by
  induction ds generalizing s with
  | nil => rfl
  | cons d ds ih =>
    rw [List.foldl_cons, ih, Intake.take]
    cases hread : Descriptor.read d with
    | error defect =>
      have hnone : Descriptor.resource? d = none := by
        rw [Descriptor.resource?, hread]
        rfl
      rw [List.filterMap_cons_none hnone]
    | ok r =>
      have hsome : Descriptor.resource? d = some r := by
        rw [Descriptor.resource?, hread]
        rfl
      rw [List.filterMap_cons_some hsome, Lineage.addAll_cons]

namespace Lineage

/-- Building is adding the resources of the descriptors and linking them. -/
theorem lineage_build (name : Text) (ds : List Json) (validate : Bool) :
    (build name ds validate).lineage =
      linkAll (Intake.rootOf name) (ds.filterMap Descriptor.resource?) validate := by
  change ((ds.foldl Intake.take (.ofRootName name)).lineage.link validate).lineage = _
  rw [Intake.lineage_foldl_take]
  rfl

theorem outcome_build (name : Text) (ds : List Json) (validate : Bool) :
    (build name ds validate).outcome =
      (((ofRoot (Intake.rootOf name)).addAll (ds.filterMap Descriptor.resource?)).link
        validate).outcome := by
  change ((ds.foldl Intake.take (.ofRootName name)).lineage.link validate).outcome = _
  rw [Intake.lineage_foldl_take]
  rfl

end Lineage

end ClusterLineage
