import ClusterLineage.Telemetry.Event

/-!
# What becomes of descriptors

A descriptor of a batch is skipped, ignored since its key is taken, or accepted.  Its fate depends
on the descriptor and on the keys that are taken before it, so the fates of a batch can be read off
it without building anything.
-/

namespace ClusterLineage

/-- Why a value describes no resource: it is no object, or it has no kind, or no name in either of
the two places for it. -/
inductive Descriptor.Defective (d : Json) : Defect → Prop where
  | notAnObject (h : d.isObject = false) : Defective d (.notAnObject d.typeName)
  | incomplete (h : d.isObject = true)
      (hmissing : (d.get "kind").text? = none ∨
        (d.get "name").text? = none ∧ (d.path ["metadata", "name"]).text? = none) :
      Defective d (.incomplete (d.get "kind").text? (name? d))

theorem Descriptor.name?_eq_none_iff {d : Json} :
    name? d = none ↔
      (d.get "name").text? = none ∧ (d.path ["metadata", "name"]).text? = none := by
  rw [name?]
  cases (d.get "name").text? with
  | none => simp
  | some name => simp

/-- Reading reports a defect exactly if there is one. -/
theorem Descriptor.read_eq_error_iff {d : Json} {defect : Defect} :
    Descriptor.read d = .error defect ↔ Descriptor.Defective d defect := by
  rw [read]
  cases hobject : d.isObject with
  | false =>
    rw [if_neg Bool.false_ne_true, Except.error.injEq]
    constructor
    · rintro rfl
      exact .notAnObject hobject
    · rintro (_ | ⟨h, -⟩)
      · rfl
      · rw [hobject] at h
        cases h
  | true =>
    rw [if_pos rfl]
    constructor
    · intro hread
      split at hread
      · cases hread
      · next hnot =>
        obtain rfl := Except.error.inj hread
        refine .incomplete hobject ?_
        rw [← name?_eq_none_iff]
        cases hkind : (d.get "kind").text? with
        | none => exact .inl rfl
        | some kind =>
          exact .inr (Option.eq_none_iff_forall_ne_some.mpr fun name => hnot kind name hkind)
    · rintro (h | ⟨-, hmissing⟩)
      · rw [hobject] at h
        cases h
      · rw [← name?_eq_none_iff] at hmissing
        split
        · next hkind hname => simp [hkind, hname] at hmissing
        · rfl

/-- What becomes of a descriptor. -/
inductive Fate where
  /-- It describes no resource. -/
  | skipped (defect : Descriptor.Defect)
  /-- It describes a resource whose key is taken. -/
  | duplicate (r : Resource)
  /-- It describes a resource that is taken in. -/
  | accepted (r : Resource)
  deriving DecidableEq, Repr

/-- What is reported of the references that a resource declares. -/
def Resource.extraction (r : Resource) : List Event :=
  match Kind.declaring? r.kind with
  | some kind => if r.relations.isEmpty then [] else [.relationsExtracted kind r.relations.length]
  | none => []

namespace Fate

/-- The resource that is taken in. -/
def resource? : Fate → Option Resource
  | accepted r => some r
  | _ => none

/-- Whether nothing is described. -/
def isSkipped : Fate → Bool
  | skipped _ => true
  | _ => false

/-- Whether the key is taken. -/
def isDuplicate : Fate → Bool
  | duplicate _ => true
  | _ => false

/-- Whether a resource is taken in. -/
def isAccepted : Fate → Bool
  | accepted _ => true
  | _ => false

/-- What is reported when a descriptor is left out. -/
def notice? : Fate → Option Event
  | skipped defect => some (.descriptorSkipped defect)
  | duplicate r => some (.duplicateIgnored r.key)
  | accepted _ => none

/-- All that is reported. -/
def events : Fate → List Event
  | skipped defect => [.descriptorSkipped defect]
  | duplicate r => r.extraction ++ [.duplicateIgnored r.key]
  | accepted r => r.extraction

/-- The keys that are taken from then on. -/
def keys (f : Fate) : List Text :=
  (f.resource?.map Resource.key).toList

/-- The fate of a descriptor when some keys are taken. -/
def of (taken : List Text) (d : Json) : Fate :=
  match Descriptor.read d with
  | .error defect => skipped defect
  | .ok r => if r.key ∈ taken then duplicate r else accepted r

/-- The fates of the descriptors of a batch, in order. -/
def all (taken : List Text) : List Json → List Fate
  | [] => []
  | d :: ds => of taken d :: all (taken ++ (of taken d).keys) ds

variable {taken : List Text} {d : Json} {ds : List Json} {fates : List Fate} {r : Resource}

theorem of_eq_skipped_iff {defect : Descriptor.Defect} :
    of taken d = skipped defect ↔ Descriptor.Defective d defect := by
  rw [of, ← Descriptor.read_eq_error_iff]
  split
  · next hread => rw [hread, skipped.injEq, Except.error.injEq]
  · next hread =>
    rw [hread]
    split
    · simp
    · simp

theorem of_eq_duplicate_iff :
    of taken d = duplicate r ↔ Descriptor.read d = .ok r ∧ r.key ∈ taken := by
  rw [of]
  split
  · next hread => simp [hread]
  · next r' hread =>
    rw [hread, Except.ok.injEq]
    split
    · next htaken =>
      rw [duplicate.injEq]
      constructor
      · rintro rfl
        exact ⟨rfl, htaken⟩
      · exact And.left
    · next hfresh =>
      constructor
      · intro h
        cases h
      · rintro ⟨rfl, htaken⟩
        exact absurd htaken hfresh

theorem of_eq_accepted_iff :
    of taken d = accepted r ↔ Descriptor.read d = .ok r ∧ r.key ∉ taken := by
  rw [of]
  split
  · next hread => simp [hread]
  · next r' hread =>
    rw [hread, Except.ok.injEq]
    split
    · next htaken =>
      constructor
      · intro h
        cases h
      · rintro ⟨rfl, hfresh⟩
        exact absurd htaken hfresh
    · next hfresh =>
      rw [accepted.injEq]
      constructor
      · rintro rfl
        exact ⟨rfl, hfresh⟩
      · exact And.left

theorem resource?_eq_some_iff {f : Fate} : f.resource? = some r ↔ f = accepted r := by
  cases f with
  | skipped defect => simp [resource?]
  | duplicate r' => simp [resource?]
  | accepted r' => simp [resource?]

theorem length_all (taken : List Text) (ds : List Json) : (all taken ds).length = ds.length := by
  induction ds generalizing taken with
  | nil => rfl
  | cons d ds ih => rw [all, List.length_cons, ih, List.length_cons]

/-- The fate of a descriptor is decided by the keys that are taken from the start and those that
are taken before it. -/
theorem getElem?_all (taken : List Text) (ds : List Json) (i : Nat) :
    (all taken ds)[i]? = ds[i]?.map (of (taken ++ ((all taken ds).take i).flatMap keys)) := by
  induction ds generalizing taken i with
  | nil => rfl
  | cons d ds ih =>
    cases i with
    | zero => simp [all]
    | succ i => simp [all, ih]

theorem mem_flatMap_keys_iff {k : Text} :
    k ∈ fates.flatMap keys ↔ ∃ r, accepted r ∈ fates ∧ r.key = k := by
  simp only [keys, List.mem_flatMap, Option.mem_toList, Option.map_eq_some_iff,
    resource?_eq_some_iff]
  constructor
  · rintro ⟨f, hf, r, rfl, hkey⟩
    exact ⟨r, hf, hkey⟩
  · rintro ⟨r, hr, hkey⟩
    exact ⟨_, hr, r, rfl, hkey⟩

/-- A key is the cluster's, or that of a resource that is accepted before a place of the batch. -/
def TakenBefore (i : Nat) (root : Text) (fates : List Fate) (k : Text) : Prop :=
  k = root ∨ ∃ j < i, ∃ r, fates[j]? = some (accepted r) ∧ r.key = k

theorem mem_keys_before_iff {i : Nat} {k root : Text} :
    k ∈ [root] ++ (fates.take i).flatMap keys ↔ TakenBefore i root fates k := by
  rw [List.mem_append, List.mem_singleton, mem_flatMap_keys_iff]
  apply or_congr_right
  simp only [List.mem_iff_getElem?, List.getElem?_take, Option.ite_none_right_eq_some]
  constructor
  · rintro ⟨r, ⟨j, hj, hr⟩, hkey⟩
    exact ⟨j, hj, r, hr, hkey⟩
  · rintro ⟨j, hj, r, hr, hkey⟩
    exact ⟨r, ⟨j, hj, hr⟩, hkey⟩

theorem map_key_resources (fates : List Fate) :
    (fates.filterMap resource?).map Resource.key = fates.flatMap keys := by
  induction fates with
  | nil => rfl
  | cons f fates ih =>
    rw [List.flatMap_cons, ← ih, keys]
    cases hf : f.resource? with
    | none => rw [List.filterMap_cons_none hf]; rfl
    | some r => rw [List.filterMap_cons_some hf]; rfl

/-- Each descriptor has one fate of three. -/
theorem length_resources_add (fates : List Fate) :
    (fates.filterMap resource?).length + fates.countP isDuplicate + fates.countP isSkipped =
      fates.length := by
  induction fates with
  | nil => rfl
  | cons f fates ih =>
    simp only [List.filterMap_cons, List.countP_cons, List.length_cons, ← ih]
    cases f with
    | skipped defect => simp [resource?, isDuplicate, isSkipped, Nat.add_assoc]
    | duplicate r => simp [resource?, isDuplicate, isSkipped]; omega
    | accepted r => simp [resource?, isDuplicate, isSkipped, Nat.add_right_comm]

/-- The resources that are taken in come in their order. -/
theorem getElem?_resources {i : Nat} (h : fates[i]? = some (accepted r)) :
    (fates.filterMap resource?)[(fates.take i).countP isAccepted]? = some r := by
  induction fates generalizing i with
  | nil => simp at h
  | cons f fates ih =>
    cases i with
    | zero =>
      obtain rfl : f = accepted r := by simpa using h
      simp [resource?]
    | succ i =>
      have hrest := ih (by simpa using h)
      rw [List.take_succ_cons, List.filterMap_cons, List.countP_cons]
      cases f with
      | skipped defect => simpa [resource?, isAccepted] using hrest
      | duplicate r' => simpa [resource?, isAccepted] using hrest
      | accepted r' => simpa [resource?, isAccepted] using hrest

/-- The descriptors whose resources are taken in. -/
def kept (ds : List Json) (fates : List Fate) : List Json :=
  ((ds.zip fates).filter fun x => x.2.isAccepted).map Prod.fst

theorem keys_eq_nil {f : Fate} (h : f.isAccepted = false) : f.keys = [] := by
  cases f with
  | skipped defect => rfl
  | duplicate r => rfl
  | accepted r => cases h

/-- Without the descriptors that are left out, the others are accepted just so. -/
theorem all_kept (taken : List Text) (ds : List Json) :
    all taken (kept ds (all taken ds)) = (all taken ds).filter isAccepted := by
  induction ds generalizing taken with
  | nil => rfl
  | cons d ds ih =>
    cases hd : (of taken d).isAccepted with
    | true =>
      have hkept : kept (d :: ds) (all taken (d :: ds)) =
          d :: kept ds (all (taken ++ (of taken d).keys) ds) := by
        simp [kept, all, hd]
      rw [hkept, all, ih, all, List.filter_cons_of_pos hd]
    | false =>
      -- what is left out takes no key, so the rest meets the same keys without it
      have hkept : kept (d :: ds) (all taken (d :: ds)) = kept ds (all taken ds) := by
        simp [kept, all, hd, keys_eq_nil hd]
      rw [hkept, ih, all, List.filter_cons_of_neg (by simp [hd]), keys_eq_nil hd,
        List.append_nil]

theorem resources_filter_isAccepted (fates : List Fate) :
    (fates.filter isAccepted).filterMap resource? = fates.filterMap resource? := by
  rw [List.filterMap_filter]
  congr 1
  funext f
  cases f with
  | skipped defect => rfl
  | duplicate r => rfl
  | accepted r => rfl

end Fate

/-- Whether an event reports that a descriptor is left out. -/
def Event.isNotice : Event → Bool
  | .descriptorSkipped _ | .duplicateIgnored _ => true
  | _ => false

/-- Whether an event reports how many descriptors of a batch were defective. -/
def Event.isTotal : Event → Bool
  | .descriptorsSkipped _ => true
  | _ => false

theorem Resource.eq_relationsExtracted_of_mem_extraction
    {r : Resource} {e : Event}
    (h : e ∈ r.extraction) :
    ∃ kind n, e = .relationsExtracted kind n := by
  rw [extraction] at h
  split at h
  · next kind _ =>
    split at h
    · simp at h
    · exact ⟨kind, _, List.mem_singleton.mp h⟩
  · simp at h

namespace Fate

theorem filter_extraction
    {p : Event → Bool}
    (hp : ∀ kind n, p (.relationsExtracted kind n) = false)
    (r : Resource) :
    r.extraction.filter p = [] := by
  rw [List.filter_eq_nil_iff]
  intro e he
  obtain ⟨kind, n, rfl⟩ := Resource.eq_relationsExtracted_of_mem_extraction he
  rw [hp]
  exact Bool.false_ne_true

/-- There is one notice for each descriptor that is left out, in order. -/
theorem filter_isNotice_events (fates : List Fate) :
    (fates.flatMap events).filter Event.isNotice = fates.filterMap notice? := by
  induction fates with
  | nil => rfl
  | cons f fates ih =>
    have hextraction := filter_extraction (p := Event.isNotice) fun _ _ => rfl
    rw [List.flatMap_cons, List.filter_append, ih]
    cases f with
    | skipped defect => rfl
    | duplicate r =>
      rw [events, List.filter_append, hextraction]
      rfl
    | accepted r =>
      rw [events, hextraction]
      rfl

theorem filter_isTotal_events (fates : List Fate) :
    (fates.flatMap events).filter Event.isTotal = [] := by
  rw [List.filter_flatMap, List.flatMap_eq_nil_iff]
  intro f _
  have hextraction := filter_extraction (p := Event.isTotal) fun _ _ => rfl
  cases f with
  | skipped defect => rfl
  | duplicate r =>
    rw [events, List.filter_append, hextraction]
    rfl
  | accepted r => exact hextraction r

end Fate

end ClusterLineage
