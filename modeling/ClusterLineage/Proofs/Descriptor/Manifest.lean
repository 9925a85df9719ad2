import ClusterLineage.Descriptor.Manifest
import ClusterLineage.Proofs.Descriptor.Respelled

/-!
# Flattening keeps the meaning

Flattening a manifest touches four members only, and flattening again changes nothing.  What a
manifest without these members describes is what its descriptor describes, but for labels and
selectors, which only the descriptor has.
-/

namespace ClusterLineage

/-- Whether a value is `null`. -/
def Json.isNull : Json → Bool
  | null => true
  | _ => false

/-! ## Setting members -/

namespace Json

variable {name other : Text} {value : Json} {apart : List Text} {ms : List (Text × Json)}

/-- Setting a member to the value that it has changes nothing. -/
theorem setMember_of_lookup (h : ms.lookup name = some value) : setMember name value ms = ms := by
  induction ms with
  | nil => cases h
  | cons m rest ih =>
    obtain ⟨n, v⟩ := m
    rw [setMember]
    by_cases hn : n = name
    · subst hn
      obtain rfl : v = value := by simpa using h
      rw [if_pos rfl]
    · rw [List.lookup_cons, beq_eq_false_iff_ne.mpr (Ne.symm hn)] at h
      rw [if_neg hn, ih h]

theorem filter_setMember (hname : name ∈ apart) :
    (setMember name value ms).filter (·.1 ∉ apart) = ms.filter (·.1 ∉ apart) := by
  induction ms with
  | nil => simp [setMember, hname]
  | cons m rest ih =>
    obtain ⟨n, v⟩ := m
    rw [setMember]
    by_cases hn : n = name
    · subst hn
      simp [hname]
    · rw [if_neg hn, List.filter_cons, List.filter_cons, ih]

end Json

namespace Descriptor

variable {name other : Text} {value : Option Json} {apart : List Text} {ms : List (Text × Json)}

theorem lookup_setIfSome_self (name : Text) (value : Option Json) (ms : List (Text × Json)) :
    (setIfSome name value ms).lookup name = (value <|> ms.lookup name) := by
  cases value with
  | none => rfl
  | some v => exact Json.lookup_setMember_self name v ms

theorem lookup_setIfSome_of_ne
    (value : Option Json)
    (ms : List (Text × Json))
    (hne : other ≠ name) :
    (setIfSome name value ms).lookup other = ms.lookup other := by
  cases value with
  | none => rfl
  | some v => exact Json.lookup_setMember_of_ne v ms hne

theorem setIfSome_of_lookup (h : ∀ v ∈ value, ms.lookup name = some v) :
    setIfSome name value ms = ms := by
  cases value with
  | none => rfl
  | some v => exact Json.setMember_of_lookup (h v rfl)

theorem filter_setIfSome (hname : name ∈ apart) :
    (setIfSome name value ms).filter (·.1 ∉ apart) = ms.filter (·.1 ∉ apart) := by
  cases value with
  | none => rfl
  | some v => exact Json.filter_setMember hname

/-- The members that flattening sets. -/
def liftedMembers : List Text :=
  ["name", "ns", "labels", "selectors"]

variable (m : Json)

theorem lookup_name_ofManifest :
    (ofManifest m).members.lookup ("name" : Text) =
      some (Json.ofText? (m.path ["metadata", "name"]).text?) := by
  rw [ofManifest, Json.members, lookup_setIfSome_of_ne _ _ (by decide),
    lookup_setIfSome_of_ne _ _ (by decide), Json.lookup_setMember_of_ne _ _ (by decide),
    Json.lookup_setMember_self]

theorem lookup_ns_ofManifest :
    (ofManifest m).members.lookup ("ns" : Text) =
      some (Json.ofText? (m.path ["metadata", "namespace"]).text?) := by
  rw [ofManifest, Json.members, lookup_setIfSome_of_ne _ _ (by decide),
    lookup_setIfSome_of_ne _ _ (by decide), Json.lookup_setMember_self]

theorem lookup_labels_ofManifest :
    (ofManifest m).members.lookup ("labels" : Text) =
      (manifestLabels? m <|> m.members.lookup ("labels" : Text)) := by
  rw [ofManifest, Json.members, lookup_setIfSome_of_ne _ _ (by decide), lookup_setIfSome_self,
    Json.lookup_setMember_of_ne _ _ (by decide), Json.lookup_setMember_of_ne _ _ (by decide)]

theorem lookup_selectors_ofManifest :
    (ofManifest m).members.lookup ("selectors" : Text) =
      ((manifestSelectors? m).map .obj <|> m.members.lookup ("selectors" : Text)) := by
  rw [ofManifest, Json.members, lookup_setIfSome_self, lookup_setIfSome_of_ne _ _ (by decide),
    Json.lookup_setMember_of_ne _ _ (by decide), Json.lookup_setMember_of_ne _ _ (by decide)]

variable {m}

/-- Flattening leaves all other members as they are. -/
theorem filter_members_ofManifest :
    (ofManifest m).members.filter (·.1 ∉ liftedMembers) =
      m.members.filter (·.1 ∉ liftedMembers) := by
  rw [ofManifest, Json.members, filter_setIfSome (by decide), filter_setIfSome (by decide),
    Json.filter_setMember (by decide), Json.filter_setMember (by decide)]

theorem get_ofManifest (hname : name ∉ liftedMembers) : (ofManifest m).get name = m.get name := by
  have hne (other : Text) (hother : other ∈ liftedMembers) : name ≠ other :=
    (ne_of_mem_of_not_mem hother hname).symm
  rw [Json.get, ofManifest, Json.members, lookup_setIfSome_of_ne _ _ (hne _ (by decide)),
    lookup_setIfSome_of_ne _ _ (hne _ (by decide)),
    Json.lookup_setMember_of_ne _ _ (hne _ (by decide)),
    Json.lookup_setMember_of_ne _ _ (hne _ (by decide))]
  rfl

theorem path_ofManifest (hname : name ∉ liftedMembers) (names : List Text) :
    (ofManifest m).path (name :: names) = m.path (name :: names) := by
  rw [Json.path, Json.path, List.foldl_cons, List.foldl_cons, get_ofManifest hname]

/-! ## Flattening twice -/

theorem exists_eq_spec_cons_of_selectorPath?
    {k : Kind} {path : List Text}
    (h : selectorPath? k = some path) :
    ∃ names : List Text, path = ("spec" : Text) :: names := by
  cases k with
  | service | deployment | replicaSet | statefulSet | daemonSet | job | podDisruptionBudget
  | networkPolicy => exact ⟨_, (Option.some.inj h).symm⟩
  | _ => cases h

theorem manifestLabels?_ofManifest : manifestLabels? (ofManifest m) = manifestLabels? m := by
  rw [manifestLabels?, manifestLabels?, path_ofManifest (by decide)]

theorem manifestSelectors?_ofManifest :
    manifestSelectors? (ofManifest m) = manifestSelectors? m := by
  rw [manifestSelectors?, manifestSelectors?, get_ofManifest (by decide)]
  cases (m.get "kind").text? with
  | none => rfl
  | some kind =>
    rw [Option.bind_eq_bind, Option.bind_eq_bind, Option.bind_some, Option.bind_some]
    apply Option.bind_congr
    intro path hpath
    obtain ⟨k, -, hpath⟩ := Option.bind_eq_some_iff.mp hpath
    obtain ⟨names, rfl⟩ := exists_eq_spec_cons_of_selectorPath? hpath
    rw [path_ofManifest (by decide)]

theorem ofManifest_ofManifest (m : Json) : ofManifest (ofManifest m) = ofManifest m := by
  have hlabels : ∀ v ∈ manifestLabels? m,
      (ofManifest m).members.lookup ("labels" : Text) = some v := by
    intro v hv
    rw [lookup_labels_ofManifest, Option.mem_def.mp hv]
    rfl
  have hselectors : ∀ v ∈ (manifestSelectors? m).map Json.obj,
      (ofManifest m).members.lookup ("selectors" : Text) = some v := by
    intro v hv
    rw [lookup_selectors_ofManifest, Option.mem_def.mp hv]
    rfl
  -- flattening again sets each of the members to the value that it has
  have hunfold := ofManifest.eq_1 (ofManifest m)
  dsimp only at hunfold
  rw [path_ofManifest (by decide), path_ofManifest (by decide), manifestLabels?_ofManifest,
    manifestSelectors?_ofManifest, Json.setMember_of_lookup (lookup_name_ofManifest m),
    Json.setMember_of_lookup (lookup_ns_ofManifest m), setIfSome_of_lookup hlabels,
    setIfSome_of_lookup hselectors] at hunfold
  exact hunfold

/-! ## What is described -/

theorem text?_ofText?_text? (j : Json) : (Json.ofText? j.text?).text? = j.text? := by
  cases hj : j.text? with
  | none => rfl
  | some s => exact Json.text?_eq_some_iff.mpr ⟨rfl, (Json.text?_eq_some_iff.mp hj).2⟩

/-- A map of texts for the entries of an object that has some, those that are `null` left out.  Any
other value has none. -/
inductive TextMap : Json → Option Labels → Prop where
  | some {ms : List (Text × Json)} (h : ms ≠ []) :
      TextMap (.obj ms)
        (some ((ms.filter fun e => !e.2.isNull).map fun e => (e.1, e.2.display)))
  | none {j : Json} (h : ∀ ms, j = .obj ms → ms = []) : TextMap j none

theorem labels?_obj_cons (e : Text × Json) (es : List (Text × Json)) :
    labels? (.obj (e :: es)) =
      some (((e :: es).filter fun e => !e.2.isNull).map fun e => (e.1, e.2.display)) := by
  rw [← List.filterMap_eq_map, List.filterMap_filter]
  refine congrArg (fun f => some (List.filterMap f (e :: es))) ?_
  funext ⟨name, value⟩
  cases value with
  | null => rfl
  | _ => rfl

theorem textMap_labels? (j : Json) : TextMap j (labels? j) := by
  cases j with
  | obj ms =>
    cases ms with
    | nil => exact .none fun ms hms => (Json.obj.inj hms).symm
    | cons e es =>
      rw [labels?_obj_cons]
      exact .some (List.cons_ne_nil e es)
  | _ => exact .none fun ms hms => Json.noConfusion hms

theorem labels?_eq_none_of_not_present {j : Json} (h : j.isPresent = false) : labels? j = none := by
  cases j with
  | obj ms =>
    cases ms with
    | nil => rfl
    | cons e es => cases h
  | _ => rfl

theorem labels?_entries? (j : Json) :
    labels? ((j.entries?.map .obj).getD .null) = labels? j := by
  rw [labels?, labels?, Json.entries?, Json.entries?]
  cases j.members with
  | nil => rfl
  | cons e es => rfl

/-- The selectors of a resource of some kind are those of the place where the kind declares them,
and none if it declares none. -/
structure SelectorsOf (m : Json) (kind : Text) (selectors : Option Labels) : Prop where
  declared : ∀ k path, Text.lower kind = Text.lower k.name → selectorPath? k = some path →
    TextMap (m.path path) selectors
  undeclared : (∀ k, Text.lower kind = Text.lower k.name → selectorPath? k = none) →
    selectors = none

section Bare

variable (hbare : ∀ name ∈ liftedMembers, m.members.lookup name = none)

include hbare

theorem get_of_bare (hname : name ∈ liftedMembers) : m.get name = .null := by
  rw [Json.get, hbare name hname, Option.getD_none]

theorem name?_ofManifest : name? (ofManifest m) = name? m := by
  have hname : (ofManifest m).get "name" =
      Json.ofText? (m.path ["metadata", "name"]).text? := by
    rw [Json.get, lookup_name_ofManifest, Option.getD_some]
  rw [name?, name?, path_ofManifest (by decide), hname, text?_ofText?_text?,
    get_of_bare hbare (by decide)]
  cases (m.path ["metadata", "name"]).text? with
  | none => rfl
  | some name => rfl

theorem ns?_ofManifest : (ofManifest m).ns? = m.ns? := by
  have hns : (ofManifest m).get "ns" =
      Json.ofText? (m.path ["metadata", "namespace"]).text? := by
    rw [Json.get, lookup_ns_ofManifest, Option.getD_some]
  rw [Json.ns?, Json.ns?, path_ofManifest (by decide), hns, text?_ofText?_text?,
    get_of_bare hbare (by decide), get_ofManifest (by decide)]
  cases (m.path ["metadata", "namespace"]).text? with
  | none => rfl
  | some ns => rfl

theorem labels?_ofManifest :
    labels? ((ofManifest m).get "labels") = labels? (m.path ["metadata", "labels"]) := by
  rw [Json.get, lookup_labels_ofManifest, hbare _ (by decide), manifestLabels?]
  split
  · rfl
  · next hpresent => rw [labels?_eq_none_of_not_present (Bool.eq_false_iff.mpr hpresent)]; rfl

theorem selectorsOf_ofManifest {kind : Text} (hkind : (m.get "kind").text? = some kind) :
    SelectorsOf m kind (labels? ((ofManifest m).get "selectors")) := by
  have hget : (ofManifest m).get "selectors" =
      ((manifestSelectors? m).map Json.obj).getD .null := by
    rw [Json.get, lookup_selectors_ofManifest, hbare _ (by decide)]
    cases manifestSelectors? m with
    | none => rfl
    | some entries => rfl
  have hselectors : manifestSelectors? m =
      ((Kind.ofName? kind).bind selectorPath?).bind fun path => (m.path path).entries? := by
    rw [manifestSelectors?, hkind]
    rfl
  rw [hget, hselectors]
  constructor
  · intro k path hk hpath
    rw [Kind.ofName?_eq_some_iff.mpr hk.symm, Option.bind_some, hpath, Option.bind_some,
      labels?_entries?]
    exact textMap_labels? _
  · intro hnone
    cases hk : Kind.ofName? kind with
    | none => rfl
    | some k =>
      rw [Option.bind_some, hnone k (Kind.ofName?_eq_some_iff.mp hk).symm]
      rfl

/-- The descriptor of a manifest describes what the manifest does, but for labels and selectors. -/
theorem resource_ofManifest (kind name : Text) :
    resource kind name (ofManifest m) =
      { resource kind name m with
        labels := labels? ((ofManifest m).get "labels")
        selectors := labels? ((ofManifest m).get "selectors") } := by
  have hns := ns?_ofManifest hbare
  have hdeclaring : ∀ name ∈ Kind.declaringMembers, (ofManifest m).get name = m.get name := by
    have hapart : ∀ name ∈ Kind.declaringMembers, name ∉ liftedMembers := by decide
    exact fun name hname => get_ofManifest (hapart name hname)
  have hmetadata (names : List Text) : (ofManifest m).path (("metadata" : Text) :: names) =
      m.path (("metadata" : Text) :: names) := path_ofManifest (by decide) names
  have hversion : (ofManifest m).get "apiVersion" = m.get "apiVersion" :=
    get_ofManifest (by decide)
  have htype : (ofManifest m).get "type" = m.get "type" := get_ofManifest (by decide)
  simp only [resource, owners, resourceType?, hns, declaredRefs_congr rfl hns hdeclaring,
    hmetadata, hversion, htype]

/-- What is read of the descriptor is what is read of the manifest, with labels and selectors. -/
theorem read_ofManifest (hobject : m.isObject = true) :
    read (ofManifest m) = (read m).map fun r =>
      { r with
        labels := labels? ((ofManifest m).get "labels")
        selectors := labels? ((ofManifest m).get "selectors") } := by
  have hobject' : (ofManifest m).isObject = true := rfl
  rw [read, read, if_pos hobject, if_pos hobject', get_ofManifest (by decide),
    name?_ofManifest hbare]
  cases (m.get "kind").text? with
  | none => rfl
  | some kind =>
    cases name? m with
    | none => rfl
    | some name => exact congrArg Except.ok (resource_ofManifest hbare kind name)

end Bare

/-- A manifest and its descriptor describe the same. -/
structure SameMeaning (m d : Json) : Prop where
  defect_iff : ∀ defect, read d = .error defect ↔ read m = .error defect
  resource : ∀ r, read m = .ok r → ∃ labels selectors,
    read d = .ok { r with labels := labels, selectors := selectors } ∧
      TextMap (m.path ["metadata", "labels"]) labels ∧ SelectorsOf m r.kind selectors

theorem sameMeaning_ofManifest
    (hobject : m.isObject = true)
    (hbare : ∀ name ∈ liftedMembers, m.members.lookup name = none) :
    SameMeaning m (ofManifest m) where
  defect_iff defect := by
    rw [read_ofManifest hbare hobject]
    cases read m with
    | error defect' => rfl
    | ok r => simp [Except.map]
  resource r hr := by
    refine ⟨_, _, by rw [read_ofManifest hbare hobject, hr]; rfl, ?_, ?_⟩
    · rw [labels?_ofManifest hbare]
      exact textMap_labels? _
    · obtain ⟨kind, name, hkind, -, rfl⟩ := exists_eq_resource_of_read hr
      exact selectorsOf_ofManifest hbare hkind

end Descriptor

end ClusterLineage
