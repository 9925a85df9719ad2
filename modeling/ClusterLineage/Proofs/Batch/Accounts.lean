import ClusterLineage.Proofs.Batch.Fates
import ClusterLineage.Proofs.Lineage.Session
import Mathlib.Logic.Basic

/-!
# Every descriptor is accounted for

Each step of taking in a batch treats one descriptor according to its fate.  So the fates account
for the nodes of the lineage and for all that is reported while the batch is taken in, and what is
skipped or ignored leaves no trace: the lineage is the one built from the accepted descriptors
alone.
-/

namespace ClusterLineage

theorem Trace.concat_reverse_cons (t : Trace) (ts : List Trace) :
    Trace.concat (t :: ts).reverse = Trace.concat ts.reverse ++ t := by
  rw [List.reverse_cons, concat, List.flatMap_append, List.flatMap_append,
    List.flatMap_singleton, List.flatMap_singleton]
  rfl

theorem Trace.append_assoc (a b c : Trace) : a ++ b ++ c = a ++ (b ++ c) :=
  congrArg₂ Trace.mk (List.append_assoc ..) (List.append_assoc ..)

theorem Descriptor.events_of_read {d : Json} {r : Resource} (h : Descriptor.read d = .ok r) :
    Descriptor.events d = r.extraction := by
  rw [events, h]
  rfl

namespace Intake

/-- What has been reported of the descriptors. -/
def reported (s : Intake) : Trace :=
  .concat s.reports.reverse

/-- One intake is another after descriptors with some fates have been taken in. -/
structure Took (s : Intake) (fates : List Fate) (s' : Intake) : Prop where
  root_eq : s'.lineage.root = s.lineage.root
  members_eq : s'.lineage.members = s.lineage.members ++ fates.filterMap Fate.resource?
  unlinked : s'.lineage.isLinked = false
  skipped_eq : s'.skipped = s.skipped + fates.countP Fate.isSkipped
  reported_eq : s'.reported = s.reported ++ { events := fates.flatMap Fate.events }

variable {s s' s'' : Intake} {fates fates' : List Fate}

theorem Took.refl (hs : s.lineage.isLinked = false) : s.Took [] s where
  root_eq := rfl
  members_eq := (List.append_nil _).symm
  unlinked := hs
  skipped_eq := rfl
  reported_eq := congrArg₂ Trace.mk (List.append_nil _).symm (List.append_nil _).symm

theorem Took.trans (h : s.Took fates s') (h' : s'.Took fates' s'') :
    s.Took (fates ++ fates') s'' where
  root_eq := h'.root_eq.trans h.root_eq
  members_eq := by
    rw [h'.members_eq, h.members_eq, List.filterMap_append, List.append_assoc]
  unlinked := h'.unlinked
  skipped_eq := by rw [h'.skipped_eq, h.skipped_eq, List.countP_append, Nat.add_assoc]
  reported_eq := by
    rw [h'.reported_eq, h.reported_eq, List.flatMap_append, Trace.append_assoc]
    rfl

theorem Took.keys_eq (h : s.Took fates s') :
    s'.lineage.keys = s.lineage.keys ++ fates.flatMap Fate.keys := by
  rw [← Fate.map_key_resources]
  simp [Lineage.keys, Lineage.nodes, h.root_eq, h.members_eq]

/-- Each step takes in a descriptor with the fate that the keys taken before it give it. -/
theorem took_take (hs : s.lineage.isLinked = false) (d : Json) :
    s.Took [Fate.of s.lineage.keys d] (s.take d) := by
  cases hfate : Fate.of s.lineage.keys d with
  | skipped defect =>
    have hread := Descriptor.read_eq_error_iff.mpr (Fate.of_eq_skipped_iff.mp hfate)
    have htake : s.take d = ⟨s.lineage, s.skipped + 1,
        { events := [.descriptorSkipped defect] } :: s.reports⟩ := by
      rw [take, Descriptor.events, hread]
    rw [htake]
    exact ⟨rfl, (List.append_nil _).symm, hs, rfl, Trace.concat_reverse_cons ..⟩
  | duplicate r =>
    obtain ⟨hread, htaken⟩ := Fate.of_eq_duplicate_iff.mp hfate
    have htake : s.take d = ⟨s.lineage, s.skipped,
        { events := [.duplicateIgnored r.key] } :: { events := r.extraction } :: s.reports⟩ := by
      rw [take, Descriptor.events_of_read hread, hread]
      dsimp only
      rw [Lineage.add_of_taken hs htaken]
    rw [htake]
    refine ⟨rfl, (List.append_nil _).symm, hs, rfl, ?_⟩
    rw [reported, Trace.concat_reverse_cons, Trace.concat_reverse_cons, Trace.append_assoc,
      List.flatMap_singleton]
    rfl
  | accepted r =>
    obtain ⟨hread, hfresh⟩ := Fate.of_eq_accepted_iff.mp hfate
    have htake : s.take d = ⟨s.lineage.insert r hfresh, s.skipped,
        {} :: { events := r.extraction } :: s.reports⟩ := by
      rw [take, Descriptor.events_of_read hread, hread]
      dsimp only
      rw [Lineage.add_of_fresh hs hfresh]
    rw [htake]
    refine ⟨rfl, rfl, rfl, rfl, ?_⟩
    rw [reported, Trace.concat_reverse_cons, Trace.concat_reverse_cons, Trace.append_assoc]
    rfl

/-- A run takes in all descriptors of a batch. -/
theorem took_foldl (hs : s.lineage.isLinked = false) (ds : List Json) :
    s.Took (Fate.all s.lineage.keys ds) (ds.foldl take s) := by
  induction ds generalizing s with
  | nil => exact .refl hs
  | cons d ds ih =>
    have hstep := took_take hs d
    have hkeys := hstep.keys_eq
    rw [List.flatMap_singleton] at hkeys
    -- the fates of the rest are those under the keys that the step leaves
    have hrest := ih hstep.unlinked
    rw [hkeys] at hrest
    exact hstep.trans hrest

end Intake

namespace Lineage

/-- Before linking a lineage is its cluster and its resources. -/
theorem eq_of_unlinked
    {g g' : Lineage}
    (hg : g.isLinked = false)
    (hg' : g'.isLinked = false)
    (hroot : g.root = g'.root)
    (hmembers : g.members = g'.members) :
    g = g' := by
  obtain ⟨root, members, _, links?, _⟩ := g
  obtain ⟨root', members', _, links?', _⟩ := g'
  obtain rfl : root = root' := hroot
  obtain rfl : members = members' := hmembers
  obtain rfl : links? = none := by simpa [isLinked] using hg
  obtain rfl : links?' = none := by simpa [isLinked] using hg'
  rfl

/-- The fates of the descriptors of a batch account for the lineage that is built from them and for
what is reported meanwhile. -/
structure Accounted (name : Text) (ds : List Json) (fates : List Fate) : Prop where
  /-- Each descriptor has one fate. -/
  length_eq : fates.length = ds.length
  skipped_iff : ∀ (i : Nat) (d : Json), ds[i]? = some d → ∀ defect,
    fates[i]? = some (Fate.skipped defect) ↔ Descriptor.Defective d defect
  duplicate_iff : ∀ (i : Nat) (d : Json), ds[i]? = some d → ∀ r,
    fates[i]? = some (Fate.duplicate r) ↔
      Descriptor.read d = .ok r ∧ Fate.TakenBefore i (Intake.rootOf name).key fates r.key
  accepted_iff : ∀ (i : Nat) (d : Json), ds[i]? = some d → ∀ r,
    fates[i]? = some (Fate.accepted r) ↔
      Descriptor.read d = .ok r ∧ ¬Fate.TakenBefore i (Intake.rootOf name).key fates r.key
  /-- A defect is reported as a warning with its reason. -/
  warning : ∀ (i : Nat) (d : Json), ds[i]? = some d → ∀ defect,
    fates[i]? = some (Fate.skipped defect) →
      (Event.descriptorSkipped defect).severity = .warning ∧
      (Event.descriptorSkipped defect).fields.lookup ("reason" : Text) =
        some (Json.str (if d.isObject then "missing_kind_or_name" else "not_a_mapping"))
  /-- The nodes are the cluster and what is accepted. -/
  nodes_eq : (build name ds false).lineage.nodes =
    Intake.rootOf name :: fates.filterMap Fate.resource?
  /-- What is accepted becomes the next node. -/
  next_node : ∀ (i : Nat) (r : Resource), fates[i]? = some (Fate.accepted r) →
    (build name ds false).lineage.nodes[(fates.take i).countP Fate.isAccepted + 1]? = some r
  size_eq : (build name ds false).lineage.size - 1 + fates.countP Fate.isDuplicate +
    fates.countP Fate.isSkipped = ds.length
  outcome_eq : (build name ds false).outcome = .ok ()
  /-- There is one notice for each descriptor that is left out, in order. -/
  notices_eq : (build name ds false).trace.events.filter Event.isNotice =
    fates.filterMap Fate.notice?
  /-- How many were defective is reported once, if any were. -/
  totals_eq : (build name ds false).trace.events.filter Event.isTotal =
    if fates.countP Fate.isSkipped = 0 then []
    else [Event.descriptorsSkipped (fates.countP Fate.isSkipped)]
  /-- What is left out leaves no trace. -/
  lineage_eq : (build name ds false).lineage =
    (build name (Fate.kept ds fates) false).lineage
  counters_eq : (build name ds false).trace.counters =
    (build name (Fate.kept ds fates) false).trace.counters

section Build

variable (name : Text) (ds : List Json)

/-- The fates of the descriptors of a batch for a cluster. -/
def fates : List Fate :=
  Fate.all [(Intake.rootOf name).key] ds

variable {name ds}

theorem getElem?_fates {i : Nat} {d : Json} (hd : ds[i]? = some d) :
    (fates name ds)[i]? =
      some (Fate.of ([(Intake.rootOf name).key] ++ ((fates name ds).take i).flatMap Fate.keys) d)
    := by
  rw [fates, Fate.getElem?_all, hd, Option.map_some]

theorem fates_kept : fates name (Fate.kept ds (fates name ds)) =
    (fates name ds).filter Fate.isAccepted :=
  Fate.all_kept _ ds

variable (name ds)

theorem took_build :
    (Intake.ofRootName name).Took (fates name ds) (ds.foldl Intake.take (.ofRootName name)) :=
  Intake.took_foldl rfl ds

theorem build_eq :
    build name ds false =
      let intake := ds.foldl Intake.take (.ofRootName name)
      let linked := intake.lineage.withLinks
      ⟨.ok (), linked, intake.trace ++
        ⟨[.lineageLinked linked.summary], linked.findings ++ [.durations, .builds]⟩⟩ := by
  rw [build, link_of_acyclic (took_build name ds).unlinked (.inl rfl)]

theorem nodes_build :
    (build name ds false).lineage.nodes =
      Intake.rootOf name :: (fates name ds).filterMap Fate.resource? := by
  have htook := took_build name ds
  rw [build_eq, nodes_withLinks, nodes, htook.root_eq, htook.members_eq]
  rfl

/-- What is reported of the descriptors one by one, then how many were defective, and the lineage at
the end. -/
theorem trace_build :
    (build name ds false).trace =
      ⟨(fates name ds).flatMap Fate.events ++
          (if (fates name ds).countP Fate.isSkipped = 0 then []
            else [.descriptorsSkipped ((fates name ds).countP Fate.isSkipped)]) ++
          [.lineageLinked (build name ds false).lineage.summary],
        (build name ds false).lineage.findings ++ [.durations, .builds]⟩ := by
  have htook := took_build name ds
  have hskipped : (ds.foldl Intake.take (.ofRootName name)).skipped =
      (fates name ds).countP Fate.isSkipped := by
    rw [htook.skipped_eq]
    exact Nat.zero_add _
  have hreported : Trace.concat (ds.foldl Intake.take (.ofRootName name)).reports.reverse =
      { events := (fates name ds).flatMap Fate.events } := htook.reported_eq
  rw [build_eq]
  dsimp only
  rw [Intake.trace, hreported, hskipped]
  split
  · rfl
  · rfl

theorem lineage_build_kept :
    (build name ds false).lineage = (build name (Fate.kept ds (fates name ds)) false).lineage := by
  have htook := took_build name ds
  have hkept := took_build name (Fate.kept ds (fates name ds))
  rw [build_eq, build_eq]
  dsimp only
  congr 1
  refine eq_of_unlinked htook.unlinked hkept.unlinked ?_ ?_
  · rw [htook.root_eq, hkept.root_eq]
  · rw [htook.members_eq, hkept.members_eq, fates_kept, Fate.resources_filter_isAccepted]

/-- Every descriptor of a batch is skipped, a duplicate or accepted, and that accounts for the
lineage built from the batch and for what is reported. -/
theorem every_descriptor_accounted : Accounted name ds (fates name ds) where
  length_eq := Fate.length_all _ ds
  skipped_iff i d hd defect := by
    rw [getElem?_fates hd, Option.some.injEq, Fate.of_eq_skipped_iff]
  duplicate_iff i d hd r := by
    rw [getElem?_fates hd, Option.some.injEq, Fate.of_eq_duplicate_iff, Fate.mem_keys_before_iff]
  accepted_iff i d hd r := by
    rw [getElem?_fates hd, Option.some.injEq, Fate.of_eq_accepted_iff, Fate.mem_keys_before_iff]
  warning i d hd defect hfate := by
    rw [getElem?_fates hd, Option.some.injEq, Fate.of_eq_skipped_iff] at hfate
    refine ⟨rfl, ?_⟩
    cases hfate with
    | notAnObject hobject => rw [hobject]; rfl
    | incomplete hobject hmissing => rw [hobject]; rfl
  nodes_eq := nodes_build name ds
  next_node i r hr := by
    rw [nodes_build, List.getElem?_cons_succ]
    exact Fate.getElem?_resources hr
  size_eq := by
    rw [size, nodes_build, List.length_cons, Nat.add_sub_cancel, Fate.length_resources_add]
    exact Fate.length_all _ ds
  outcome_eq := by rw [build_eq]
  notices_eq := by
    rw [trace_build, List.filter_append, List.filter_append, Fate.filter_isNotice_events]
    split
    · simp [Event.isNotice]
    · simp [Event.isNotice]
  totals_eq := by
    rw [trace_build, List.filter_append, List.filter_append, Fate.filter_isTotal_events]
    split
    · rfl
    · rfl
  lineage_eq := lineage_build_kept name ds
  counters_eq := by rw [trace_build, trace_build, ← lineage_build_kept]

end Build

/-- A value that is no object, a pod, the same pod in capitals, and an object without a name. -/
example :
    let pod (name : Text) : Json := .obj [("kind", .str "Pod"), ("name", .str name)]
    (fates "prod" [.null, pod "web", pod "WEB", .obj [("kind", .str "Pod")]]).map Fate.notice? =
      [some (.descriptorSkipped (.notAnObject "NoneType")), none,
        some (.duplicateIgnored "pod/web"),
        some (.descriptorSkipped (.incomplete (some "Pod") none))] := by
  decide +kernel

end Lineage

end ClusterLineage
