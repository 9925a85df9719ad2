import ClusterLineage.Proofs.Batch.Order
import ClusterLineage.Proofs.Command.TreeReadBack
import ClusterLineage.Proofs.Ownership.Check
import ClusterLineage.Proofs.Settings

/-!
# Runs fail or print all of a view

Whatever a run can fail for is found out before anything is printed: the settings, the bytes of the
batch, its shape, the check of ownership and the key of the view.  After that printing cannot fail,
since nothing in the batch and nothing on the command line brings surrogates into a view.
-/

namespace ClusterLineage

/-! ## Lineages of batches without surrogates -/

theorem Lineage.namesUnicode_build
    {name : Text} {ds : List Json}
    (hname : name.IsUnicode)
    (hds : ∀ d ∈ ds, d.IsUnicode)
    (validate : Bool) :
    ∀ r ∈ (build name ds validate).lineage.nodes, r.NamesUnicode := by
  rw [lineage_build, nodes, root_linkAll, members_linkAll, List.forall_mem_cons]
  constructor
  · have hrelations : AllUnicode (Intake.rootOf name).relations := by
      simp [Intake.rootOf, AllUnicode]
    exact ⟨⟨Text.isUnicode_ofString _, hname, isUnicode_none⟩, hrelations⟩
  · intro r hr
    obtain ⟨d, hd, hread⟩ := List.mem_filterMap.mp (mem_of_mem_accepted hr)
    exact Descriptor.namesUnicode_of_read (hds d hd) (Descriptor.resource?_eq_some_iff.mp hread)

theorem Settings.isUnicode_rootName
    {env : Environment} {settings : Settings}
    (h : load env = .ok settings) :
    settings.rootName.IsUnicode := by
  rw [(load_eq_ok_iff.mp h).rootName]
  exact Text.isUnicode_ofString _

/-! ## Shapes of batches -/

theorem Batch.list?_eq_none_iff {j : Json} :
    Batch.list? j = none ↔ ∀ items, j ≠ .arr items := by
  cases j with
  | arr items => simp [Batch.list?]
  | _ => simp [Batch.list?]

/-- A value has none of the shapes of batches if it is no array and has none in the two places where
one can be. -/
theorem Batch.ofJson?_eq_none_iff {j : Json} :
    Batch.ofJson? j = none ↔
      (∀ items, j ≠ .arr items) ∧ (∀ items, j.get "resources" ≠ .arr items) ∧
        ∀ items, j.get "items" ≠ .arr items := by
  rw [← Batch.list?_eq_none_iff, ← Batch.list?_eq_none_iff, ← Batch.list?_eq_none_iff,
    Batch.ofJson?]
  cases Batch.list? j
  all_goals cases Batch.list? (j.get "resources")
  all_goals cases Batch.list? (j.get "items")
  all_goals simp

namespace Command

open Text (unifyLineEnds)

variable {env : Settings.Environment} {file? : String → Option (List UInt8)}
variable {arguments : List String} {request : Request} {action : Action} {bytes : List UInt8}
variable {settings : Settings} {batch : Batch} {g : Lineage} {format : DiagramFormat}

theorem Request.isUnicode_rootName
    (h : Request.ofArguments arguments = .ok request) :
    ∀ name ∈ request.rootName, name.IsUnicode := by
  unfold Request.ofArguments at h
  split at h
  · cases h
  · split at h
    · cases h
    · split at h
      · cases h
      · obtain rfl := Except.ok.inj h
        intro name hname
        obtain ⟨value, -, rfl⟩ := Option.map_eq_some_iff.mp hname
        exact Text.isUnicode_ofString value

theorem isUnicode_firstName
    {names : List (Option Text)} {last : Text}
    (hnames : ∀ name ∈ names, ∀ t ∈ name, t.IsUnicode)
    (hlast : last.IsUnicode) :
    (firstName names last).IsUnicode := by
  rw [firstName]
  cases hfirst : names.findSome? Text.proper? with
  | none => exact hlast
  | some t =>
    obtain ⟨name, hname, hproper⟩ := List.exists_of_findSome?_eq_some hfirst
    exact hnames name hname t (Option.mem_filter_iff.mp hproper).1

/-! ## What makes a run fail -/

/-- A batch cannot be read: its bytes are not UTF-8, or it is not JSON, or its value is no array and
has neither resources nor items in one. -/
inductive Unreadable (bytes : List UInt8) : Prop where
  | notUtf8 {e : Text.Utf8Error} (h : Text.decodeUtf8 bytes = .error e)
  | notJson {cs : List Char} {f : Json.LocatedFlaw}
      (hdecoded : Text.decodeUtf8 bytes = .ok cs)
      (h : Json.parse {} (unifyLineEnds cs) = .error (.malformed f))
  | unknownShape {cs : List Char} {payload : Json}
      (hdecoded : Text.decodeUtf8 bytes = .ok cs)
      (hparsed : Json.parse {} (unifyLineEnds cs) = .ok payload)
      (hlist : ∀ items, payload ≠ .arr items)
      (hresources : ∀ items, payload.get "resources" ≠ .arr items)
      (hitems : ∀ items, payload.get "items" ≠ .arr items)

/-- Within what is read of a JSON text, a batch is read unless there is a reason not to. -/
theorem unreadable_iff
    (hlimits : ∀ e, readPayload bytes ≠ .error (.beyondLimits e)) :
    Unreadable bytes ↔ ∃ e, readBatch bytes = .error e := by
  constructor
  · intro h
    cases h with
    | notUtf8 h => simp [readBatch, readPayload, h]
    | notJson hdecoded h => simp [readBatch, readPayload, hdecoded, h]
    | unknownShape hdecoded hparsed hlist hresources hitems =>
      have hshape := Batch.ofJson?_eq_none_iff.mpr ⟨hlist, hresources, hitems⟩
      simp [readBatch, readPayload, hdecoded, hparsed, hshape]
  · rintro ⟨e, he⟩
    cases hdecoded : Text.decodeUtf8 bytes with
    | error e => exact .notUtf8 hdecoded
    | ok cs =>
      cases hparsed : Json.parse {} (unifyLineEnds cs) with
      | error e =>
        cases e with
        | malformed f => exact .notJson hdecoded hparsed
        | beyondLimits e =>
          exact absurd (by simp only [readPayload, hdecoded, hparsed]) (hlimits e)
      | ok payload =>
        cases hbatch : Batch.ofJson? payload with
        | none =>
          obtain ⟨hlist, hresources, hitems⟩ := Batch.ofJson?_eq_none_iff.mp hbatch
          exact .unknownShape hdecoded hparsed hlist hresources hitems
        | some batch => simp [readBatch, readPayload, hdecoded, hparsed, hbatch] at he

/-- The building of the lineage that a run shows. -/
def Request.build (request : Request) (settings : Settings) (batch : Batch) : Step Unit :=
  Lineage.build (firstName [request.rootName, batch.rootName] settings.rootName) batch.descriptors
    (settings.validateOwnership && !request.skipValidation)

/-- What makes a run fail: its settings, its batch, a cycle of ownership that is looked for, or a
key that is not in the lineage. -/
inductive Fails (env : Settings.Environment) (request : Request) (action : Action)
    (bytes : List UInt8) : Prop where
  | settings {e : SettingsError} (h : Settings.load env = .error e)
  | unreadable (h : Unreadable bytes)
  | cycle {settings : Settings} {batch : Batch} {i : Nat}
      (hsettings : Settings.load env = .ok settings)
      (hbatch : readBatch bytes = .ok batch)
      (hvalidate : settings.validateOwnership = true)
      (hskip : request.skipValidation = false)
      (hi : i < (request.build settings batch).lineage.size)
      (h : OnCycle (request.build settings batch).lineage.Owns i)
  | unknownKey {settings : Settings} {batch : Batch} {key : Text}
      (hsettings : Settings.load env = .ok settings)
      (hbatch : readBatch bytes = .ok batch)
      (hkey : action.key? = some key)
      (h : Text.lower key ∉ (request.build settings batch).lineage.keys)

/-! ## From a request to what is printed -/

/-- A key that is not in the lineage is all that is reported. -/
theorem Action.run_of_unknown_key
    {key : Text}
    (hkey : action.key? = some key)
    (h : Text.lower key ∉ g.keys) :
    action.run g format = { error? := some (.unknownKey key) } := by
  have hcontains : g.contains key = false := by
    simpa [Lineage.contains, Lineage.indexOf?] using h
  simp [Action.run, hkey, hcontains, Option.filter_some]

theorem Action.run_of_known_key (h : ∀ key ∈ action.key?, Text.lower key ∈ g.keys) :
    action.run g format = printed (action.pieces g format) := by
  have hnone : (action.key?.filter fun key => !g.contains key) = none := by
    rw [Option.filter_eq_none_iff]
    intro key hkey
    simpa [Lineage.contains, Lineage.indexOf?] using h key hkey
  rw [Action.run, hnone]

theorem toPrintout_runAction_of_unreadable
    {e : RunError}
    (h : readBatch bytes = .error e) :
    (runAction settings request action bytes).toPrintout = { error? := some e } := by
  simp only [runAction, h]

theorem toPrintout_runAction_of_failed
    {e : LineageError}
    (hbatch : readBatch bytes = .ok batch)
    (h : (request.build settings batch).outcome = .error e) :
    (runAction settings request action bytes).toPrintout = { error? := some (.build e) } := by
  rw [Request.build] at h
  simp only [runAction, hbatch, h]

theorem toPrintout_runAction_of_built
    (hbatch : readBatch bytes = .ok batch)
    (h : (request.build settings batch).outcome = .ok ()) :
    (runAction settings request action bytes).toPrintout =
      action.run (request.build settings batch).lineage settings.format := by
  rw [Request.build] at h ⊢
  simp only [runAction, hbatch, h]

theorem isLinked_build (request : Request) (settings : Settings) (batch : Batch) :
    (request.build settings batch).lineage.isLinked = true := by
  rw [Request.build, Lineage.lineage_build]
  exact Lineage.isLinked_linkAll _ _ _

/-- The lineage is built unless a cycle is looked for and there is one. -/
theorem outcome_build_eq_ok_iff :
    (request.build settings batch).outcome = .ok () ↔
      ¬(settings.validateOwnership = true ∧ request.skipValidation = false ∧
        ∃ i < (request.build settings batch).lineage.size,
          OnCycle (request.build settings batch).lineage.Owns i) := by
  have hlinked := isLinked_build request settings batch
  rw [Request.build] at hlinked ⊢
  rw [Lineage.outcome_build_eq_ok_iff, Lineage.cycleKeys?, Option.map_eq_none_iff,
    Lineage.ownershipCycle?_eq_none_iff hlinked]
  rw [Bool.and_eq_false_iff, Bool.not_eq_false', not_and_or, not_and_or, Bool.not_eq_true,
    Bool.not_eq_false, or_assoc]
  simp only [not_exists, not_and]

/-- No surrogates come into a lineage from the command line, from the environment or from a batch
without them. -/
theorem namesUnicode_of_readBatch
    (hrequest : Request.ofArguments arguments = .ok request)
    (hsettings : Settings.load env = .ok settings)
    (hunicode : ∀ payload, readPayload bytes = .ok payload → payload.IsUnicode)
    (hbatch : readBatch bytes = .ok batch) :
    ∀ r ∈ (request.build settings batch).lineage.nodes, r.NamesUnicode := by
  obtain ⟨payload, hpayload, hshape⟩ :
      ∃ payload, readPayload bytes = .ok payload ∧ Batch.ofJson? payload = some batch := by
    unfold readBatch at hbatch
    split at hbatch
    · cases hbatch
    · next payload hpayload =>
      split at hbatch
      · cases hbatch
      · next batch hshape =>
        obtain rfl := Except.ok.inj hbatch
        exact ⟨payload, hpayload, hshape⟩
  obtain ⟨hdescriptors, hembedded⟩ := Batch.isUnicode_of_ofJson? (hunicode payload hpayload) hshape
  apply Lineage.namesUnicode_build _ hdescriptors
  apply isUnicode_firstName _ (Settings.isUnicode_rootName hsettings)
  simp only [List.forall_mem_cons]
  exact ⟨Request.isUnicode_rootName hrequest, hembedded, by simp⟩

/-! ## Runs -/

section

variable (hlimits : ∀ e, readPayload bytes ≠ .error (.beyondLimits e))

include hlimits

theorem not_fails
    (hsettings : Settings.load env = .ok settings)
    (hbatch : readBatch bytes = .ok batch)
    (hbuilt : (request.build settings batch).outcome = .ok ())
    (hkey : ∀ key ∈ action.key?, Text.lower key ∈ (request.build settings batch).lineage.keys) :
    ¬Fails env request action bytes := by
  intro h
  cases h with
  | settings h =>
    rw [hsettings] at h
    cases h
  | unreadable h =>
    obtain ⟨e, he⟩ := (unreadable_iff hlimits).mp h
    rw [hbatch] at he
    cases he
  | cycle hsettings' hbatch' hvalidate hskip hi h =>
    obtain rfl := Except.ok.inj (hsettings.symm.trans hsettings')
    obtain rfl := Except.ok.inj (hbatch.symm.trans hbatch')
    exact outcome_build_eq_ok_iff.mp hbuilt ⟨hvalidate, hskip, _, hi, h⟩
  | unknownKey hsettings' hbatch' hkey' h =>
    obtain rfl := Except.ok.inj (hsettings.symm.trans hsettings')
    obtain rfl := Except.ok.inj (hbatch.symm.trans hbatch')
    exact h (hkey _ hkey')

/-- A run that is not refused fails before it prints anything, or prints a view of its lineage. -/
theorem run_cases
    (env : Settings.Environment)
    (hrequest : Request.ofArguments arguments = .ok request)
    (hfile : file? request.file = some bytes)
    (haction : request.action = .ok action) :
    ∃ report, run env file? arguments = .ok report ∧
      ((Fails env request action bytes ∧ ∃ e, report.toPrintout = { error? := some e }) ∨
        ¬Fails env request action bytes ∧ ∃ settings batch,
          Settings.load env = .ok settings ∧ readBatch bytes = .ok batch ∧
            report.toPrintout =
              printed (action.pieces (request.build settings batch).lineage settings.format)) := by
  cases hsettings : Settings.load env with
  | error e =>
    refine ⟨{ error? := some (.settings e) }, ?_, .inl ⟨.settings hsettings, _, rfl⟩⟩
    simp only [run, hrequest, hfile, hsettings]
  | ok settings =>
    refine ⟨runAction settings request action bytes, ?_, ?_⟩
    · simp only [run, hrequest, hfile, hsettings, haction]
    cases hbatch : readBatch bytes with
    | error e =>
      have hunreadable := (unreadable_iff hlimits).mpr ⟨e, hbatch⟩
      exact .inl ⟨.unreadable hunreadable, e, toPrintout_runAction_of_unreadable hbatch⟩
    | ok batch =>
      cases houtcome : (request.build settings batch).outcome with
      | error e =>
        have hcycle := mt outcome_build_eq_ok_iff.mpr (houtcome.trans_ne (by simp))
        obtain ⟨hvalidate, hskip, i, hi, hcycle⟩ := not_not.mp hcycle
        exact .inl ⟨.cycle hsettings hbatch hvalidate hskip hi hcycle, _,
          toPrintout_runAction_of_failed hbatch houtcome⟩
      | ok value =>
        have hrun : (runAction settings request action bytes).toPrintout =
            action.run (request.build settings batch).lineage settings.format :=
          toPrintout_runAction_of_built hbatch houtcome
        by_cases hkey : ∀ key ∈ action.key?,
            Text.lower key ∈ (request.build settings batch).lineage.keys
        · rw [Action.run_of_known_key hkey] at hrun
          exact .inr ⟨not_fails hlimits hsettings hbatch houtcome hkey,
            settings, batch, rfl, rfl, hrun⟩
        · push Not at hkey
          obtain ⟨key, hkey, hmissing⟩ := hkey
          rw [Action.run_of_unknown_key hkey hmissing] at hrun
          exact .inl ⟨.unknownKey hsettings hbatch hkey hmissing, _, hrun⟩

end

/-- A descriptor without anything but a kind and a name. -/
def bareDescriptor (kind name : Text) : Json :=
  .obj [("kind", .str kind), ("name", .str name)]

/-- Such a descriptor is read back from a text that it is written as, alone in an array. -/
theorem readPayload_bareDescriptor
    {kind name text : String}
    (htext : text = String.ofList
      (Json.written .lines 0 (.arr [bareDescriptor kind name]) ++ ['\n'])) :
    readPayload text.toUTF8.data.toList = .ok (.arr [bareDescriptor kind name]) := by
  have hplain : Json.Plain 983 (.arr [bareDescriptor kind name]) := by
    refine .arr (List.forall_mem_singleton.mpr ?_)
    refine plain_obj ["kind", "name"] rfl (by decide) ?_
    simp only [List.forall_mem_cons]
    exact ⟨.str (Text.isUnicode_ofString _), .str (Text.isUnicode_ofString _), by simp⟩
  rw [htext]
  exact readPayload_written hplain

theorem readBatch_bareDescriptor
    {kind name text : String}
    (htext : text = String.ofList
      (Json.written .lines 0 (.arr [bareDescriptor kind name]) ++ ['\n'])) :
    readBatch text.toUTF8.data.toList = .ok ⟨[bareDescriptor kind name], none⟩ := by
  rw [readBatch, readPayload_bareDescriptor htext]
  rfl

theorem isUnicode_bareDescriptor (kind name : String) :
    (Json.arr [bareDescriptor kind name]).IsUnicode := by
  refine .arr (List.forall_mem_singleton.mpr (.obj ?_))
  simp only [List.forall_mem_cons]
  exact ⟨.str (Text.isUnicode_ofString _), .str (Text.isUnicode_ofString _), by simp⟩

theorem orphanKeys_of_lone_orphan
    {i : Nat} {key : Text}
    (horphans : g.links.orphans = [i])
    (hkey : g.keyAt? i = some key) :
    g.orphanKeys = [key] := by
  rw [Lineage.orphanKeys, Lineage.sortedKeys, horphans, List.filterMap_cons_some hkey,
    List.filterMap_nil, Text.sorted, List.mergeSort_singleton]

end Command

end ClusterLineage
