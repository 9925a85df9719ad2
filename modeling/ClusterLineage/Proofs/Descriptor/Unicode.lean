import ClusterLineage.Batch
import ClusterLineage.Proofs.Declared.Origin
import ClusterLineage.Proofs.Text.Unicode

/-!
# Descriptors without surrogates

If the texts in a value have no surrogates, then neither have those that are read from its fields.
So the resources of a batch are named by texts without surrogates, and what they refer to as well.
-/

namespace ClusterLineage

/-- A value whose texts have no surrogates.  The names of members do not count. -/
inductive Json.IsUnicode : Json → Prop where
  | null : IsUnicode .null
  | bool (b : Bool) : IsUnicode (.bool b)
  | int (n : Int) : IsUnicode (.int n)
  | float (x : Float) : IsUnicode (.float x)
  | str {s : Text} (hs : s.IsUnicode) : IsUnicode (.str s)
  | arr {xs : List Json} (hxs : ∀ x ∈ xs, IsUnicode x) : IsUnicode (.arr xs)
  | obj {ms : List (Text × Json)} (hms : ∀ m ∈ ms, IsUnicode m.2) : IsUnicode (.obj ms)

variable {j raw : Json} {t : Text}

/-! ## Fields -/

namespace Json

theorem IsUnicode.members (h : j.IsUnicode) : ∀ m ∈ j.members, m.2.IsUnicode := by
  cases h with
  | obj hms => exact hms
  | _ => simp [Json.members]

theorem IsUnicode.items (h : j.IsUnicode) : ∀ x ∈ j.items, x.IsUnicode := by
  cases h with
  | arr hxs => exact hxs
  | _ => simp [Json.items]

theorem IsUnicode.get
    (h : j.IsUnicode)
    (name : Text) :
    (j.get name).IsUnicode := by
  rw [Json.get]
  cases hlookup : j.members.lookup name with
  | none => exact .null
  | some value =>
    obtain ⟨before, after, hmembers, -⟩ := List.lookup_eq_some_iff.mp hlookup
    exact h.members (name, value) (hmembers ▸ by simp)

theorem IsUnicode.path
    (h : j.IsUnicode)
    (names : List Text) :
    (j.path names).IsUnicode := by
  unfold Json.path
  induction names generalizing j with
  | nil => exact h
  | cons name names ih => exact ih (h.get name)

theorem IsUnicode.objects (h : j.IsUnicode) : ∀ x ∈ j.objects, x.IsUnicode :=
  fun x hx => h.items x (List.mem_filter.mp hx).1

theorem IsUnicode.text?
    (h : j.IsUnicode) :
    ∀ t ∈ j.text?, t.IsUnicode := by
  cases h with
  | str hs =>
    rintro t ht
    obtain ⟨-, rfl⟩ := by simpa [Json.text?] using ht
    exact hs
  | _ => simp [Json.text?]

/-- Fields of a value without surrogates lead to others without them only. -/
theorem IsUnicode.of_reaches
    {x : Json}
    (h : j.IsUnicode)
    (hx : j.Reaches x) :
    x.IsUnicode := by
  induction hx with
  | self => exact h
  | get _ name ih => exact ih.get name
  | object _ hy ih => exact ih.objects _ hy

theorem IsUnicode.of_holds
    (h : j.IsUnicode)
    (ht : j.Holds t) :
    t.IsUnicode := by
  obtain ⟨x, hx, ht⟩ := ht
  exact (h.of_reaches hx).text? t ht

end Json

theorem isUnicode_none : ∀ t ∈ (none : Option Text), t.IsUnicode := by simp

theorem Kind.isUnicode_name (k : Kind) : k.name.IsUnicode := by
  cases k
  all_goals exact Text.isUnicode_ofString _

/-- References that are all without surrogates. -/
def AllUnicode (refs : List Ref) : Prop :=
  ∀ r ∈ refs, r.IsUnicode

theorem Ref.ReadFrom.isUnicode
    {r : Ref}
    (hr : r.ReadFrom raw)
    (h : raw.IsUnicode) :
    r.IsUnicode := by
  refine ⟨?_, h.of_holds hr.name, fun t ht => h.of_holds (hr.ns t ht)⟩
  obtain ⟨k, hk⟩ | hheld := hr.kind
  · rw [hk]
    exact k.isUnicode_name
  · exact h.of_holds hheld

/-! ## Resources and batches -/

/-- A resource that is named, and that refers to others, by texts without surrogates. -/
structure Resource.NamesUnicode (r : Resource) : Prop extends r.IsUnicode where
  relations : AllUnicode r.relations

namespace Descriptor

theorem namesUnicode_of_read
    {r : Resource}
    (h : j.IsUnicode)
    (hr : Descriptor.read j = .ok r) :
    r.NamesUnicode := by
  have hself : j.Reaches j := .self
  obtain ⟨kind, name, hkind, hname, rfl⟩ := exists_eq_resource_of_read hr
  refine ⟨⟨(h.get _).text? kind hkind, ?_, fun t ht => h.of_holds (j.holds_ns? t ht)⟩, ?_⟩
  · exact h.of_holds (Json.holds_orElse (hself.get _).holds (hself.path _).holds name hname)
  · exact fun ref href => (readFrom_declaredRefs kind j ref href).isUnicode h

theorem isUnicode_setMember
    {name : Text} {value : Json} {ms : List (Text × Json)}
    (hvalue : value.IsUnicode)
    (hms : ∀ m ∈ ms, m.2.IsUnicode) :
    ∀ m ∈ Json.setMember name value ms, m.2.IsUnicode := by
  induction ms with
  | nil =>
    rw [Json.setMember]
    exact List.forall_mem_singleton.mpr hvalue
  | cons m ms ih =>
    obtain ⟨n, v⟩ := m
    obtain ⟨hv, hms⟩ := List.forall_mem_cons.mp hms
    rw [Json.setMember]
    split
    · exact List.forall_mem_cons.mpr ⟨hvalue, hms⟩
    · exact List.forall_mem_cons.mpr ⟨hv, ih hms⟩

theorem isUnicode_setIfSome
    {name : Text} {value : Option Json} {ms : List (Text × Json)}
    (hvalue : ∀ v ∈ value, v.IsUnicode)
    (hms : ∀ m ∈ ms, m.2.IsUnicode) :
    ∀ m ∈ setIfSome name value ms, m.2.IsUnicode := by
  cases value with
  | none => exact hms
  | some v => exact isUnicode_setMember (hvalue v rfl) hms

/-- The descriptor of a manifest has no texts but those of the manifest. -/
theorem isUnicode_ofManifest (h : j.IsUnicode) : (ofManifest j).IsUnicode := by
  have htext : ∀ path, (Json.ofText? (j.path path).text?).IsUnicode := by
    intro path
    have htext := (h.path path).text?
    cases htext' : (j.path path).text? with
    | none => exact .null
    | some t => exact .str (htext t htext')
  have hselectors : ∀ v ∈ (manifestSelectors? j).map Json.obj, v.IsUnicode := by
    intro v hv
    obtain ⟨entries, hentries, rfl⟩ := Option.map_eq_some_iff.mp hv
    obtain ⟨kind, -, hentries⟩ := Option.bind_eq_some_iff.mp hentries
    obtain ⟨path, -, hentries⟩ := Option.bind_eq_some_iff.mp hentries
    have hmembers := (h.path path).members
    unfold Json.entries? at hentries
    split at hentries
    · cases hentries
    · obtain rfl := Option.some.inj hentries
      exact .obj hmembers
  have hlabels : ∀ v ∈ manifestLabels? j, v.IsUnicode := by
    intro v hv
    rw [manifestLabels?, Option.mem_def, Option.ite_none_right_eq_some] at hv
    obtain rfl := Option.some.inj hv.2
    exact h.path _
  exact .obj (isUnicode_setIfSome hselectors (isUnicode_setIfSome hlabels
    (isUnicode_setMember (htext _) (isUnicode_setMember (htext _) h.members))))

end Descriptor

namespace Batch

variable {batch : Batch}

theorem isUnicode_of_mem_list?
    {items : List Json}
    (h : j.IsUnicode)
    (hitems : list? j = some items) :
    ∀ x ∈ items, x.IsUnicode := by
  unfold list? at hitems
  split at hitems
  · obtain rfl := Option.some.inj hitems
    exact h.items
  · cases hitems

/-- The descriptors of a batch and the name that comes with them are read from its value. -/
theorem isUnicode_of_ofJson?
    (h : j.IsUnicode)
    (hbatch : ofJson? j = some batch) :
    (∀ d ∈ batch.descriptors, d.IsUnicode) ∧ ∀ t ∈ batch.rootName, t.IsUnicode := by
  unfold ofJson? at hbatch
  split at hbatch
  · next descriptors hlist =>
    obtain rfl := Option.some.inj hbatch
    exact ⟨isUnicode_of_mem_list? h hlist, isUnicode_none⟩
  · next descriptors _ hlist =>
    obtain rfl := Option.some.inj hbatch
    exact ⟨isUnicode_of_mem_list? (h.get _) hlist, (h.get _).text?⟩
  · next items _ _ hlist =>
    obtain rfl := Option.some.inj hbatch
    refine ⟨List.forall_mem_map.mpr fun item hitem => ?_, isUnicode_none⟩
    have hitem := isUnicode_of_mem_list? (h.get _) hlist item hitem
    unfold ofItem
    split
    · exact Descriptor.isUnicode_ofManifest hitem
    · exact hitem
  · cases hbatch

end Batch

end ClusterLineage
