import ClusterLineage.Proofs.Lineage.Diagnostics
import ClusterLineage.Proofs.Ownership.Chain

/-!
# Keys and identities

A resource is identified by its kind, its namespace if it has one, and its name, all in any letter
case.  As long as these have no slashes a key says the same as an identity, so whatever is looked up
by key is found by identity: owners, references, and resources that come twice.  Whether or not
there are slashes, keys are written small, so a node is found under the text of its key in any
letter case.
-/

namespace ClusterLineage

/-- What identifies a resource. -/
structure Identity where
  kind : Text
  ns : Option Text
  name : Text
  deriving DecidableEq, Repr

/-- The identity of the resource that a reference points at. -/
def Ref.identity (r : Ref) : Identity :=
  ⟨r.kind, r.ns, r.name⟩

/-- The identity of a resource. -/
def Resource.identity (r : Resource) : Identity :=
  ⟨r.kind, r.ns, r.name⟩

namespace Identity

/-- The key of all resources with an identity. -/
def key (a : Identity) : Text :=
  ClusterLineage.key a.kind a.ns a.name

/-- The text of the key, in the letter case of the identity. -/
def text (a : Identity) : Text :=
  keyText a.kind a.ns a.name

/-- Whether none of the parts has a slash. -/
structure Slashless (a : Identity) : Prop where
  kind : a.kind.Slashless
  ns : ∀ t ∈ a.ns, t.Slashless
  name : a.name.Slashless

/-- Whether a resource belongs to the whole cluster: it has no namespace, or an empty one. -/
def IsClusterWide (a : Identity) : Prop :=
  a.ns = none ∨ a.ns = some ""

instance (a : Identity) : Decidable a.IsClusterWide :=
  inferInstanceAs (Decidable (a.ns = none ∨ a.ns = some ""))

/-- Whether two identities differ in letter case at most. -/
structure SameInAnyCase (a b : Identity) : Prop where
  kind : Text.lower a.kind = Text.lower b.kind
  ns : a.IsClusterWide ∧ b.IsClusterWide ∨
    ∃ s t, a.ns = some s ∧ b.ns = some t ∧ s ≠ "" ∧ t ≠ "" ∧ Text.lower s = Text.lower t
  name : Text.lower a.name = Text.lower b.name

end Identity

open Text

variable {a b : Identity} {ns : Option Text} {r : Resource} {ref : Ref} {g : Lineage} {i j : Nat}

/-! ## Namespaces that count -/

theorem proper?_eq_none_iff : proper? ns = none ↔ ns = none ∨ ns = some "" := by
  cases ns with
  | none => simp [proper?]
  | some t =>
    cases t
    simp [proper?, isEmpty, ofString]

theorem proper?_eq_some_iff {t : Text} : proper? ns = some t ↔ ns = some t ∧ t ≠ "" := by
  cases t
  simp [proper?, isEmpty, ofString, Option.filter_eq_some_iff]

theorem proper?_map_lower (ns : Option Text) :
    proper? (ns.map lower) = (proper? ns).map lower := by
  cases ns with
  | none => rfl
  | some t =>
    rw [Option.map_some, proper?, proper?, Option.filter_some, Option.filter_some, isEmpty_lower]
    split
    · rfl
    · rfl

namespace Identity

/-! ## Keys -/

/-- The text of the key after the first slash. -/
def place (a : Identity) : Text :=
  match proper? a.ns with
  | none => a.name
  | some ns => ns ++ "/" ++ a.name

/-- The identity in small letters. -/
def lower (a : Identity) : Identity :=
  ⟨Text.lower a.kind, a.ns.map Text.lower, Text.lower a.name⟩

theorem text_eq (a : Identity) : a.text = a.kind ++ "/" ++ a.place := by
  rw [text, keyText, place]
  cases proper? a.ns with
  | none => rfl
  | some ns =>
    dsimp only
    simp only [append_assoc]

theorem key_eq (a : Identity) : a.key = a.lower.text :=
  key_eq_keyText a.kind a.ns a.name

theorem Slashless.lower (ha : a.Slashless) : a.lower.Slashless where
  kind := ha.kind.lower
  ns := by
    intro t ht
    obtain ⟨s, hs, rfl⟩ := Option.map_eq_some_iff.mp ht
    exact (ha.ns s hs).lower
  name := ha.name.lower

theorem place_inj
    (ha : a.Slashless)
    (hb : b.Slashless) :
    a.place = b.place ↔ proper? a.ns = proper? b.ns ∧ a.name = b.name := by
  -- the name after a namespace comes with a slash, and no name has one
  have hslash (s t : Text) : ¬(s ++ "/" ++ t).Slashless := by
    intro hnone
    rw [Text.Slashless, codes_append_slash] at hnone
    exact hnone (List.mem_append_right _ List.mem_cons_self)
  have hns {a : Identity} (ha : a.Slashless) : ∀ t ∈ proper? a.ns, t.Slashless :=
    fun t ht => ha.ns t (Option.mem_filter_iff.mp ht).1
  rw [place, place]
  cases hs : proper? a.ns with
  | none =>
    cases ht : proper? b.ns with
    | none => simp
    | some t =>
      dsimp only
      refine iff_of_false (fun hname => hslash t b.name ?_) (by simp)
      exact hname ▸ ha.name
  | some s =>
    cases ht : proper? b.ns with
    | none =>
      dsimp only
      refine iff_of_false (fun hname => hslash s a.name ?_) (by simp)
      exact hname ▸ hb.name
    | some t => rw [append_slash_inj (hns ha s hs) (hns hb t ht), Option.some.injEq]

/-- The parts of the text of a key can be read off it if they have no slashes. -/
theorem text_inj
    (ha : a.Slashless)
    (hb : b.Slashless) :
    a.text = b.text ↔ a.kind = b.kind ∧ proper? a.ns = proper? b.ns ∧ a.name = b.name := by
  rw [text_eq, text_eq, append_slash_inj ha.kind hb.kind, place_inj ha hb]

theorem map_lower_proper?_eq_iff :
    (proper? a.ns).map Text.lower = (proper? b.ns).map Text.lower ↔
      a.IsClusterWide ∧ b.IsClusterWide ∨
        ∃ s t, a.ns = some s ∧ b.ns = some t ∧ s ≠ "" ∧ t ≠ "" ∧
          Text.lower s = Text.lower t := by
  rw [IsClusterWide, IsClusterWide, ← proper?_eq_none_iff, ← proper?_eq_none_iff]
  constructor
  · intro h
    cases hs : proper? a.ns with
    | none =>
      rw [hs, Option.map_none, eq_comm, Option.map_eq_none_iff] at h
      exact .inl ⟨rfl, h⟩
    | some s =>
      rw [hs, Option.map_some, eq_comm, Option.map_eq_some_iff] at h
      obtain ⟨t, ht, hlower⟩ := h
      obtain ⟨has, hs⟩ := proper?_eq_some_iff.mp hs
      obtain ⟨hbt, ht⟩ := proper?_eq_some_iff.mp ht
      exact .inr ⟨s, t, has, hbt, hs, ht, hlower.symm⟩
  · rintro (⟨ha, hb⟩ | ⟨s, t, has, hbt, hs, ht, hlower⟩)
    · rw [ha, hb]
    · rw [proper?_eq_some_iff.mpr ⟨has, hs⟩, proper?_eq_some_iff.mpr ⟨hbt, ht⟩, Option.map_some,
        Option.map_some, hlower]

/-- Without slashes, two identities have the same key just if they are the same in any letter
case. -/
theorem key_eq_key_iff
    (ha : a.Slashless)
    (hb : b.Slashless) :
    a.key = b.key ↔ a.SameInAnyCase b := by
  rw [key_eq, key_eq, text_inj ha.lower hb.lower]
  change _ ∧ proper? (a.ns.map Text.lower) = proper? (b.ns.map Text.lower) ∧ _ ↔ _
  rw [proper?_map_lower, proper?_map_lower, map_lower_proper?_eq_iff]
  constructor
  · rintro ⟨hkind, hns, hname⟩
    exact ⟨hkind, hns, hname⟩
  · rintro ⟨hkind, hns, hname⟩
    exact ⟨hkind, hns, hname⟩

/-- Keys of the whole cluster and keys in namespaces are apart. -/
theorem key_ne_key_of_isClusterWide
    (ha : a.Slashless)
    (hb : b.Slashless)
    (hwide : a.IsClusterWide)
    (hinside : ¬b.IsClusterWide) :
    a.key ≠ b.key := by
  rw [ne_eq, key_eq_key_iff ha hb]
  rintro ⟨-, ⟨-, hbwide⟩ | ⟨s, -, has, -, hs, -⟩, -⟩
  · exact hinside hbwide
  · rcases hwide with hnone | hempty
    · rw [hnone] at has
      cases has
    · rw [hempty] at has
      exact hs (Option.some.inj has).symm

theorem lower_key (a : Identity) : Text.lower a.key = a.key :=
  lower_lower a.text

end Identity

/-! ## Nodes -/

namespace Lineage

open Links

/-- A key is looked up in any letter case. -/
theorem indexOf?_text (g : Lineage) (a : Identity) : g.indexOf? a.text = g.indexOf? a.key := by
  rw [indexOf?, indexOf?, a.lower_key]
  rfl

/-- A node is found under its key and under the text that the key comes from. -/
theorem indexOf?_key_and_text (hr : g.nodes[i]? = some r) :
    g.indexOf? r.key = some i ∧ g.indexOf? r.identity.text = some i := by
  have hkey : g.indexOf? r.key = some i := indexOf?_of_keyAt? (keyAt?_of_getElem? hr)
  exact ⟨hkey, (indexOf?_text g r.identity).trans hkey⟩

theorem keyAt?_eq_key_iff
    (hnodes : ∀ y ∈ g.nodes, y.identity.Slashless)
    (ha : a.Slashless) :
    g.keyAt? i = some a.key ↔ ∃ y, g.nodes[i]? = some y ∧ a.SameInAnyCase y.identity := by
  rw [keyAt?_eq_some_iff]
  apply exists_congr
  intro y
  refine and_congr_right fun hy => ?_
  rw [← Identity.key_eq_key_iff ha (hnodes y (List.mem_of_getElem? hy)), eq_comm]
  rfl

theorem key_mem_keys_iff
    (hnodes : ∀ y ∈ g.nodes, y.identity.Slashless)
    (ha : a.Slashless) :
    a.key ∈ g.keys ↔ ∃ y ∈ g.nodes, a.SameInAnyCase y.identity := by
  rw [keys, List.mem_map]
  apply exists_congr
  intro y
  refine and_congr_right fun hy => ?_
  rw [← Identity.key_eq_key_iff ha (hnodes y hy), eq_comm]
  rfl

theorem resolve?_eq_some_iff_same
    (hnodes : ∀ y ∈ g.nodes, y.identity.Slashless)
    (href : ref.identity.Slashless) :
    resolve? g.keys ref = some i ↔
      ∃ y, g.nodes[i]? = some y ∧ ref.identity.SameInAnyCase y.identity := by
  rw [resolve?_eq_some_iff g.keys_nodup, ← keyAt?_eq_getElem?]
  exact keyAt?_eq_key_iff hnodes href

theorem key_not_mem_keys_iff
    (hnodes : ∀ y ∈ g.nodes, y.identity.Slashless)
    (ha : a.Slashless) :
    a.key ∉ g.keys ↔ ∀ y ∈ g.nodes, ¬a.SameInAnyCase y.identity := by
  rw [key_mem_keys_iff hnodes ha]
  push Not
  rfl

/-- The owner of a node is the node that its first declared owner names, if there is one. -/
theorem parent?_eq_some_iff_same
    (hg : g.isLinked = true)
    (hnodes : ∀ y ∈ g.nodes, y.identity.Slashless)
    (hi : i ≠ 0)
    (hr : g.nodes[i]? = some r)
    (hhead : r.owners.head? = some ref)
    (href : ref.identity.Slashless) :
    g.parent? i = some j ↔
      (∃ y, g.nodes[j]? = some y ∧ ref.identity.SameInAnyCase y.identity) ∨
        j = 0 ∧ ∀ y ∈ g.nodes, ¬ref.identity.SameInAnyCase y.identity := by
  have hsize : i < g.size := (List.getElem?_eq_some_iff.mp hr).1
  have hdeclared : g.declaredOwner i = (resolve? g.keys ref).getD 0 := by
    rw [declaredOwner, hr, Option.map_some, Option.getD_some, ownerOf, hhead, Option.bind_some]
  have hnone : resolve? g.keys ref = none ↔
      ∀ y ∈ g.nodes, ¬ref.identity.SameInAnyCase y.identity :=
    resolve?_eq_none_iff.trans (key_not_mem_keys_iff hnodes href)
  rw [parent?_eq_some_iff hg, owns_iff hg, hdeclared, ← resolve?_eq_some_iff_same hnodes href,
    ← hnone]
  cases resolve? g.keys ref with
  | none => simp [hi, hsize, eq_comm]
  | some p => simp [hi, hsize]

/-- A reference is recorded as leading nowhere just if no node has its identity. -/
theorem mem_unresolved_iff_same
    (hg : g.isLinked = true)
    (hnodes : ∀ y ∈ g.nodes, y.identity.Slashless)
    (hi : i ≠ 0)
    (hr : g.nodes[i]? = some r)
    (hmem : ref ∈ r.relations)
    (href : ref.identity.Slashless) :
    .ofRef r ref ∈ g.unresolved ↔ ∀ y ∈ g.nodes, ¬ref.identity.SameInAnyCase y.identity := by
  rw [← key_not_mem_keys_iff hnodes href]
  constructor
  · intro hu
    have hkey := key_not_mem_of_mem_unresolved hg hu
    rwa [Unresolved.key_ofRef] at hkey
  · intro hkey
    rw [unresolved_eq hg, List.mem_flatMap]
    refine ⟨r, mem_members_iff.mpr ⟨i, hi, hr⟩, ?_⟩
    rw [unresolvedOf_eq]
    exact List.mem_map_of_mem (List.mem_filter.mpr ⟨hmem, decide_eq_true hkey⟩)

theorem outcome_add_eq_taken_iff (hg : g.isLinked = false) :
    (g.add r).outcome = .ok false ↔ r.key ∈ g.keys := by
  by_cases hkey : r.key ∈ g.keys
  · simp [add_of_taken hg hkey, hkey]
  · simp [add_of_fresh hg hkey, hkey]

theorem outcome_add_eq_new_iff (hg : g.isLinked = false) :
    (g.add r).outcome = .ok true ↔ r.key ∉ g.keys := by
  by_cases hkey : r.key ∈ g.keys
  · simp [add_of_taken hg hkey, hkey]
  · simp [add_of_fresh hg hkey, hkey]

/-- If no node has a slash in its identity, what is looked up by key is found by identity: the node
that a reference points at, the owner of a node, what a node refers to by name, and whether a
resource is there already. -/
structure FindsByIdentity (g : Lineage) : Prop where
  target : ∀ (ref : Ref) (i : Nat), ref.identity.Slashless →
    (resolve? g.keys ref = some i ↔
      ∃ y, g.nodes[i]? = some y ∧ ref.identity.SameInAnyCase y.identity)
  owner : g.isLinked = true → ∀ i x owner p, i ≠ 0 → g.nodes[i]? = some x →
    x.owners.head? = some owner → owner.identity.Slashless →
      (g.parent? i = some p ↔
        (∃ y, g.nodes[p]? = some y ∧ owner.identity.SameInAnyCase y.identity) ∨
          p = 0 ∧ ∀ y ∈ g.nodes, ¬owner.identity.SameInAnyCase y.identity)
  relation : g.isLinked = true → ∀ i x ref, i ≠ 0 → g.nodes[i]? = some x →
    ref ∈ x.relations → ref.identity.Slashless →
      (∀ j y, g.nodes[j]? = some y → ref.identity.SameInAnyCase y.identity →
        ⟨i, j, .references⟩ ∈ g.edges ∧ ⟨j, i, .references⟩ ∈ g.edges) ∧
      (.ofRef x ref ∈ g.unresolved ↔
        ∀ y ∈ g.nodes, ¬ref.identity.SameInAnyCase y.identity)
  duplicate : g.isLinked = false → ∀ r : Resource, r.identity.Slashless →
    ((g.add r).outcome = .ok false ↔
      ∃ y ∈ g.nodes, r.identity.SameInAnyCase y.identity) ∧
    ((g.add r).outcome = .ok true ↔
      ∀ y ∈ g.nodes, ¬r.identity.SameInAnyCase y.identity)

theorem findsByIdentity (hnodes : ∀ y ∈ g.nodes, y.identity.Slashless) : g.FindsByIdentity where
  target _ _ href := resolve?_eq_some_iff_same hnodes href
  owner hg _ _ _ _ hi hx hhead howner := parent?_eq_some_iff_same hg hnodes hi hx hhead howner
  relation hg i x ref hi hx hmem href := by
    refine ⟨fun j y hy hsame => ?_, mem_unresolved_iff_same hg hnodes hi hx hmem href⟩
    have hj : g.keyAt? j = some ref.key := (keyAt?_eq_key_iff hnodes href).mpr ⟨y, hy, hsame⟩
    obtain ⟨hthere, hback, -⟩ := references_of_mem_relations hg hi hx hmem hj
    exact ⟨hthere, hback⟩
  duplicate hg r hr := by
    rw [outcome_add_eq_taken_iff hg, outcome_add_eq_new_iff hg]
    exact ⟨key_mem_keys_iff hnodes hr, key_not_mem_keys_iff hnodes hr⟩

end Lineage

/-- Keys identify resources exactly up to letter case.  Of texts without slashes, two keys are the
same just if kinds, namespaces and names are the same in any letter case, and a key of the whole
cluster is never one in a namespace; so references with the same target, and all that a lineage
looks up, are matched by identity.  Of any texts, a key is written small, and a node is found under
its key and under the text that the key comes from. -/
theorem keys_identify :
    (∀ a b : Identity, a.Slashless → b.Slashless → (a.key = b.key ↔ a.SameInAnyCase b)) ∧
      (∀ a b : Identity, a.Slashless → b.Slashless → a.IsClusterWide → ¬b.IsClusterWide →
        a.key ≠ b.key) ∧
      (∀ r r' : Ref, r.identity.Slashless → r'.identity.Slashless →
        (r.sameTarget r' = true ↔ r.identity.SameInAnyCase r'.identity)) ∧
      (∀ g : Lineage, (∀ y ∈ g.nodes, y.identity.Slashless) → g.FindsByIdentity) ∧
      (∀ a : Identity, Text.lower a.key = a.key) ∧
      (∀ (g : Lineage) (a : Identity), g.indexOf? a.text = g.indexOf? a.key) ∧
      ∀ (g : Lineage) (i : Nat) (r : Resource), g.nodes[i]? = some r →
        g.indexOf? r.key = some i ∧ g.indexOf? r.identity.text = some i := by
  refine ⟨fun _ _ => Identity.key_eq_key_iff, fun _ _ => Identity.key_ne_key_of_isClusterWide, ?_,
    fun _ => Lineage.findsByIdentity, Identity.lower_key, Lineage.indexOf?_text,
    fun _ _ _ => Lineage.indexOf?_key_and_text⟩
  intro r r' hr hr'
  rw [Ref.sameTarget, beq_iff_eq]
  exact Identity.key_eq_key_iff hr hr'

/-- A street in capitals ends in a sigma and is named by a dotted capital.  It is not the pod of the
whole cluster, and owns it under the small letters of both. -/
theorem keys_identify_final_sigma :
    let root : Resource := { kind := "cluster", name := "prod" }
    let street : Resource := { kind := "ΟΔΟΣ", name := "İ", ns := some "Apps" }
    let owner : Ref := { kind := "οδος", name := "i\u0307", ns := some "APPS" }
    let pod : Resource := { kind := "Pod", name := "p", ns := some "", owners := [owner] }
    let g := Lineage.linkAll root [street, pod] true
    street.identity.Slashless ∧ owner.identity.Slashless ∧ pod.identity.Slashless ∧
      owner.identity.SameInAnyCase street.identity ∧
      pod.identity.IsClusterWide ∧ ¬street.identity.IsClusterWide ∧
      pod.identity.key ≠ street.identity.key ∧
      (∀ y ∈ g.nodes, y.identity.Slashless) ∧ g.FindsByIdentity ∧ g.parent? 2 = some 1 ∧
      g.nodes[1]? = some street ∧ g.indexOf? "ΟΔΟΣ/Apps/İ" = some 1 := by
  intro root street owner pod g
  obtain ⟨hkeys, hapart, -, hfinds, -, -, hlookup⟩ := keys_identify
  have hstreet : street.identity.Slashless := ⟨by decide, by decide, by decide⟩
  have howner : owner.identity.Slashless := ⟨by decide, by decide, by decide⟩
  have hpod : pod.identity.Slashless := ⟨by decide, by decide, by decide⟩
  have hwide : pod.identity.IsClusterWide := .inr rfl
  have hinside : ¬street.identity.IsClusterWide := by decide
  have hsame : owner.identity.SameInAnyCase street.identity :=
    (hkeys _ _ howner hstreet).mp (by decide +kernel)
  have hnodes : g.nodes = [root, street, pod] := by decide +kernel
  have hslashless : ∀ y ∈ g.nodes, y.identity.Slashless := by
    rw [hnodes]
    simp only [List.forall_mem_cons]
    exact ⟨⟨by decide, by decide, by decide⟩, hstreet, hpod, by simp⟩
  have hnode : g.nodes[1]? = some street := by rw [hnodes]; rfl
  have hparent : g.parent? 2 = some 1 := by
    refine ((hfinds g hslashless).owner (by decide +kernel) 2 pod owner 1 (by decide) ?_ rfl
      howner).mpr (.inl ⟨street, hnode, hsame⟩)
    rw [hnodes]
    rfl
  exact ⟨hstreet, howner, hpod, hsame, hwide, hinside, hapart _ _ hpod hstreet hwide hinside,
    hslashless, hfinds g hslashless, hparent, hnode, (hlookup g 1 street hnode).2⟩

end ClusterLineage
