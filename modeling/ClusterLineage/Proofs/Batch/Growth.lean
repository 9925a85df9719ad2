import ClusterLineage.Proofs.Orphan.Verdict
import Mathlib.Data.List.Flatten

/-!
# Growing a batch

More resources only ever add use.  The nodes that were there before stay, and between them all edges
but those from the cluster; what resolved still resolves.  So no old resource becomes an orphan, and
no old reference is lost, whatever joins the batch and wherever it comes in it.
-/

namespace ClusterLineage

/-- A list with more resources inserted anywhere between the old ones. -/
inductive Inserted : List Resource → List Resource → List Resource → Prop
  | nil : Inserted [] [] []
  | old {added old all : List Resource} (r : Resource) (h : Inserted added old all) :
      Inserted added (r :: old) (r :: all)
  | added {added old all : List Resource} (r : Resource) (h : Inserted added old all) :
      Inserted (r :: added) old (r :: all)

theorem Inserted.filter_eq
    {added old all : List Resource} {keys : List Text}
    (h : Inserted added old all)
    (hold : ∀ r ∈ old, r.key ∈ keys)
    (hadded : ∀ r ∈ added, r.key ∉ keys) :
    (all.filter fun r => r.key ∈ keys) = old := by
  induction h with
  | nil => rfl
  | old r h ih =>
    rw [List.filter_cons_of_pos (by simpa using hold r List.mem_cons_self)]
    rw [ih (fun s hs => hold s (List.mem_cons_of_mem r hs)) hadded]
  | added r h ih =>
    rw [List.filter_cons_of_neg (by simpa using hadded r List.mem_cons_self)]
    exact ih hold (fun s hs => hadded s (List.mem_cons_of_mem r hs))

/-- Which resources with some keys are taken in does not depend on resources with other keys. -/
theorem filter_accepted
    {keys taken taken' : List Text} {rs : List Resource}
    (htaken : ∀ k ∈ keys, k ∈ taken ↔ k ∈ taken') :
    ((accepted taken rs).filter fun r => r.key ∈ keys) =
      accepted taken' (rs.filter fun r => r.key ∈ keys) := by
  induction rs generalizing taken taken' with
  | nil => rfl
  | cons r rs ih =>
    rw [accepted]
    by_cases hr : r.key ∈ keys
    · rw [List.filter_cons_of_pos (by simpa using hr), accepted]
      by_cases hold : r.key ∈ taken
      · rw [if_pos hold, if_pos ((htaken _ hr).mp hold)]
        exact ih htaken
      · rw [if_neg hold, if_neg (fun h => hold ((htaken _ hr).mpr h)),
          List.filter_cons_of_pos (by simpa using hr)]
        congr 1
        apply ih
        intro k hk
        rw [List.mem_append, List.mem_append, htaken k hk]
    · rw [List.filter_cons_of_neg (by simpa using hr)]
      split
      · exact ih htaken
      · rw [List.filter_cons_of_neg (by simpa using hr)]
        apply ih
        intro k hk
        have hne : k ≠ r.key := fun h => hr (h ▸ hk)
        rw [List.mem_append, List.mem_singleton, htaken k hk]
        simp [hne]

/-- More resources mean more use of each. -/
theorem declaredFacts_lessUse
    {root : Resource} {members members' : List Resource}
    (hsub : members ⊆ members')
    (x : Resource) :
    (declaredFacts root members x).LessUse (declaredFacts root members' x) where
  referrers := by
    rintro k ⟨y, hy, hrefers, hkind⟩
    exact ⟨k, ⟨y, hsub hy, hrefers, hkind⟩, rfl⟩
  owned := by
    rintro ⟨y, hy, howner⟩
    exact ⟨y, hsub hy, howner⟩
  missing := by
    rintro k ⟨ref, href, hnone, hkind⟩
    exact ⟨k, ⟨ref, href, fun y hy => hnone y (List.cons_subset_cons root hsub hy), hkind⟩, rfl⟩
  token := id

/-- What is collected from some of the resources is collected from all, if the others give
nothing. -/
theorem flatMap_filter_eq
    {α β : Type} {l : List α} {q : α → Bool} {f : α → List β}
    (h : ∀ a ∈ l, q a = false → f a = []) :
    (l.filter q).flatMap f = l.flatMap f := by
  induction l with
  | nil => rfl
  | cons a l ih =>
    have hrest := ih fun b hb => h b (List.mem_cons_of_mem a hb)
    cases hq : q a with
    | true => rw [List.filter_cons_of_pos hq, List.flatMap_cons, List.flatMap_cons, hrest]
    | false =>
      rw [List.filter_cons_of_neg (by simp [hq]), List.flatMap_cons, hrest,
        h a List.mem_cons_self hq, List.nil_append]

namespace Links

variable {root : Resource} {old all : List Resource} {keys keys' : List Text}

/-- An edge joins two of some keys, and is not one by which the cluster owns a resource. -/
def Joins (root : Text) (keys : List Text) (e : KeyEdge) : Prop :=
  e.source ∈ keys ∧ e.target ∈ keys ∧ (e.type = .owns → e.source ≠ root)

instance (root : Text) (keys : List Text) (e : KeyEdge) : Decidable (Joins root keys e) :=
  inferInstanceAs (Decidable (_ ∧ _ ∧ (_ → _)))

theorem key_mem_of_filter_eq
    (hold : (all.filter fun r => r.key ∈ keys) = old)
    {r : Resource}
    (hr : r ∈ old) :
    r.key ∈ keys := by
  rw [← hold] at hr
  exact of_decide_eq_true (List.mem_filter.mp hr).2

theorem filter_if_keysBothWays_of_mem
    {a b : Text}
    (ha : a ∈ keys)
    (hb : b ∈ keys)
    (root : Text)
    (p : Prop)
    [Decidable p] :
    (if p then keysBothWays a b else []).filter (Joins root keys) =
      if p then keysBothWays a b else [] := by
  by_cases hp : p
  · simp [hp, keysBothWays, Joins, ha, hb]
  · simp [hp]

theorem filter_if_keysBothWays_eq_nil
    {a b : Text}
    (hab : ¬(a ∈ keys ∧ b ∈ keys))
    (root : Text)
    (p : Prop)
    [Decidable p] :
    (if p then keysBothWays a b else []).filter (Joins root keys) = [] := by
  have hba : ¬(b ∈ keys ∧ a ∈ keys) := fun h => hab h.symm
  by_cases hp : p
  · simp [hp, keysBothWays, Joins, hab, hba]
  · simp [hp]

theorem filter_declaredSelectorEdges
    (root : Text)
    (hold : (all.filter fun r => r.key ∈ keys) = old) :
    (declaredSelectorEdges all).filter (Joins root keys) = declaredSelectorEdges old := by
  simp only [declaredSelectorEdges, List.filter_flatMap]
  rw [← hold, ← flatMap_filter_eq (q := fun r => decide (r.key ∈ keys)), hold]
  · apply List.flatMap_congr
    intro r hr
    have hrkey := key_mem_of_filter_eq hold hr
    rw [← flatMap_filter_eq (q := fun r => decide (r.key ∈ keys)), hold]
    · apply List.flatMap_congr
      intro target htarget
      exact filter_if_keysBothWays_of_mem hrkey (key_mem_of_filter_eq hold htarget) root _
    · intro target _ hnew
      exact filter_if_keysBothWays_eq_nil (fun h => of_decide_eq_false hnew h.2) root _
  · intro r _ hnew
    apply List.flatMap_eq_nil_iff.mpr
    intro target _
    exact filter_if_keysBothWays_eq_nil (fun h => of_decide_eq_false hnew h.1) root _

theorem filter_declaredRelationEdges
    (root : Text)
    (hold : (all.filter fun r => r.key ∈ keys) = old)
    (hsub : keys ⊆ keys') :
    (declaredRelationEdges keys' all).filter (Joins root keys) =
      declaredRelationEdges keys old := by
  simp only [declaredRelationEdges, List.filter_flatMap]
  rw [← hold, ← flatMap_filter_eq (q := fun r => decide (r.key ∈ keys)), hold]
  · apply List.flatMap_congr
    intro r hr
    have hrkey := key_mem_of_filter_eq hold hr
    apply List.flatMap_congr
    intro ref _
    by_cases href : ref.key ∈ keys
    · rw [filter_if_keysBothWays_of_mem hrkey href, if_pos (hsub href), if_pos href]
    · rw [filter_if_keysBothWays_eq_nil (fun h => href h.2), if_neg href]
  · intro r _ hnew
    apply List.flatMap_eq_nil_iff.mpr
    intro ref _
    exact filter_if_keysBothWays_eq_nil (fun h => of_decide_eq_false hnew h.1) root _

/-- Whether a resource names an old one as its owner does not depend on what is new. -/
theorem ownerKey_eq_iff
    {r : Resource} {root a : Text}
    (hsub : keys ⊆ keys')
    (ha : a ∈ keys)
    (hroot : a ≠ root) :
    ownerKey root keys' r = a ↔ ownerKey root keys r = a := by
  unfold ownerKey
  cases r.owners.head? with
  | none => rfl
  | some owner =>
    by_cases howner : owner.key ∈ keys
    · simp [howner, hsub howner]
    · have hne : owner.key ≠ a := fun h => howner (h ▸ ha)
      have hroot' : root ≠ a := Ne.symm hroot
      by_cases howner' : owner.key ∈ keys'
      · simp [howner, howner', hne, hroot']
      · simp [howner, howner']

theorem filter_declaredOwnerEdges
    (root : Text)
    (hold : (all.filter fun r => r.key ∈ keys) = old)
    (hsub : keys ⊆ keys') :
    (declaredOwnerEdges root keys' all).filter (Joins root keys) =
      (declaredOwnerEdges root keys old).filter (Joins root keys) := by
  have hsame : ∀ r : Resource,
      Joins root keys ⟨ownerKey root keys' r, r.key, .owns⟩ ↔
        Joins root keys ⟨ownerKey root keys r, r.key, .owns⟩ := by
    intro r
    constructor
    · intro hjoins
      rw [(ownerKey_eq_iff hsub hjoins.1 (hjoins.2.2 rfl)).mp rfl]
      exact hjoins
    · intro hjoins
      rw [(ownerKey_eq_iff hsub hjoins.1 (hjoins.2.2 rfl)).mpr rfl]
      exact hjoins
  have hfilter :
      (all.filter fun r => decide (Joins root keys ⟨ownerKey root keys' r, r.key, .owns⟩)) =
        old.filter fun r => decide (Joins root keys ⟨ownerKey root keys r, r.key, .owns⟩) := by
    rw [← hold, List.filter_filter]
    apply List.filter_congr
    intro r _
    rw [← Bool.decide_and, decide_eq_decide, hsame r]
    exact ⟨fun hjoins => ⟨hjoins, hjoins.2.1⟩, And.left⟩
  rw [declaredOwnerEdges, declaredOwnerEdges, List.filter_map, List.filter_map]
  change List.map _ (all.filter fun r =>
    decide (Joins root keys ⟨ownerKey root keys' r, r.key, .owns⟩)) = _
  rw [hfilter]
  apply List.map_congr_left
  intro r hr
  have hjoins : Joins root keys ⟨ownerKey root keys r, r.key, .owns⟩ := by
    simpa using (List.mem_filter.mp hr).2
  rw [(ownerKey_eq_iff hsub hjoins.1 (hjoins.2.2 rfl)).mpr rfl]

/-- Of the edges that a larger batch declares, those that join old nodes are those that the old
batch declares. -/
theorem filter_declaredEdges
    {root : Resource}
    (hold : (all.filter fun r => r.key ∈ (root :: old).map Resource.key) = old)
    (hsub : (root :: old).map Resource.key ⊆ (root :: all).map Resource.key) :
    (declaredEdges root all).filter (Joins root.key ((root :: old).map Resource.key)) =
      (declaredEdges root old).filter (Joins root.key ((root :: old).map Resource.key)) := by
  have hself : (old.filter fun r => r.key ∈ (root :: old).map Resource.key) = old := by
    rw [List.filter_eq_self]
    intro r hr
    exact decide_eq_true (List.mem_map_of_mem (List.mem_cons_of_mem root hr))
  simp only [declaredEdges, List.filter_append]
  rw [filter_declaredOwnerEdges _ hold hsub, filter_declaredSelectorEdges _ hold,
    filter_declaredRelationEdges _ hold hsub, filter_declaredSelectorEdges _ hself,
    filter_declaredRelationEdges _ hself (List.Subset.refl _)]

/-- A reference that leads nowhere in a larger batch led nowhere before. -/
theorem unresolvedOf_sublist
    (hsub : keys ⊆ keys')
    (r : Resource) :
    (unresolvedOf keys' r).Sublist (unresolvedOf keys r) := by
  apply List.Sublist.map
  apply List.monotone_filter_right
  intro ref href
  simp only [Option.isNone_iff_eq_none, resolve?_eq_none_iff] at href ⊢
  exact fun h => href (hsub h)

end Links

namespace Lineage

open Links

/-- One linked lineage is a part of another: it has the same cluster, and of the resources of the
other those whose keys it knows. -/
structure Within (g g' : Lineage) : Prop where
  linked : g.isLinked = true
  linked' : g'.isLinked = true
  root_eq : g'.root = g.root
  members_eq : (g'.members.filter fun r => r.key ∈ g.keys) = g.members

variable {g g' : Lineage} {i : Nat} {x : Resource}

theorem Within.members_subset (h : g.Within g') : g.members ⊆ g'.members := by
  rw [← h.members_eq]
  exact List.filter_subset_self _

theorem Within.keys_subset (h : g.Within g') : g.keys ⊆ g'.keys := by
  rw [keys, keys, nodes, nodes, h.root_eq]
  exact List.map_subset _ (List.cons_subset_cons _ h.members_subset)

/-- An old resource that is an orphan in the larger lineage was one before. -/
theorem Within.isOrphan_of_isOrphan
    (h : g.Within g')
    {j : Nat}
    (hi : i ≠ 0)
    (hj : j ≠ 0)
    (hx : g.nodes[i]? = some x)
    (hx' : g'.nodes[j]? = some x)
    (horphan : g'.isOrphan j = true) :
    g.isOrphan i = true := by
  rw [isOrphan_iff h.linked' hj hx', h.root_eq] at horphan
  rw [isOrphan_iff h.linked hi hx]
  exact horphan.of_lessUse (declaredFacts_lessUse h.members_subset x)

/-- The references of old resources that lead nowhere in the larger lineage led nowhere before. -/
theorem Within.unresolved_sublist (h : g.Within g') :
    (g'.unresolved.filter fun u => u.source ∈ g.keys).Sublist g.unresolved := by
  rw [unresolved_eq h.linked', unresolved_eq h.linked, List.filter_flatMap,
    ← flatMap_filter_eq (q := fun r => decide (r.key ∈ g.keys)), h.members_eq]
  · apply List.Sublist.flatMap_right
    intro r _
    exact List.filter_sublist.trans (unresolvedOf_sublist h.keys_subset r)
  · intro r _ hnew
    rw [List.filter_eq_nil_iff]
    intro u hu
    rw [source_of_mem_unresolvedOf hu, hnew]
    exact Bool.false_ne_true

/-- Old nodes are joined by as many edges as before, edges by which the cluster owns one excepted.
-/
theorem Within.count_keyEdges
    (h : g.Within g')
    {e : KeyEdge}
    (he : Joins g.root.key g.keys e) :
    g'.keyEdges.count e = g.keyEdges.count e := by
  have hsub := h.keys_subset
  rw [keys, keys, nodes, nodes, h.root_eq] at hsub
  have hcount := congrArg (List.count e) (filter_declaredEdges h.members_eq hsub)
  have hkeep (l : List KeyEdge) : (l.filter (Joins g.root.key
      ((g.root :: g.members).map Resource.key))).count e = l.count e :=
    List.count_filter (decide_eq_true he)
  rw [hkeep, hkeep] at hcount
  rw [keyEdges_eq h.linked', keyEdges_eq h.linked, h.root_eq, hcount]

theorem within_linkAll
    {root : Resource} {added old all : List Resource}
    (hall : Inserted added old all)
    (hnew : ∀ r ∈ added, r.key ∉ old.map Resource.key) :
    (linkAll root old false).Within (linkAll root all false) where
  linked := isLinked_linkAll root old false
  linked' := isLinked_linkAll root all false
  root_eq := by rw [root_linkAll, root_linkAll]
  members_eq := by
    rw [members_linkAll, members_linkAll]
    have hfilter := @filter_accepted (old.map Resource.key) [root.key] [root.key] all
      (fun _ _ => Iff.rfl)
    rw [hall.filter_eq (fun r hr => List.mem_map_of_mem hr) hnew] at hfilter
    rw [← hfilter]
    apply List.filter_congr
    intro r hr
    rw [decide_eq_decide, mem_keys_linkAll]
    constructor
    · rintro (hroot | hkey)
      · exact absurd (List.mem_singleton.mpr hroot) (key_not_mem_of_mem_accepted hr)
      · exact hkey
    · exact .inr

/-- Growing a batch takes nothing from the old resources.  When more resources with new keys come
anywhere into a batch, each old node stays and is no orphan unless it was one before, the references
of old resources that lead nowhere are among those from before, and old nodes stay joined by as many
references, and by as many edges of ownership, those from the cluster excepted. -/
theorem growth_keeps_use
    (root : Resource)
    (added old all : List Resource)
    (hall : Inserted added old all)
    (hnew : ∀ r ∈ added, r.key ∉ old.map Resource.key) :
    let g := linkAll root old false
    let g' := linkAll root all false
    (∀ i x, i ≠ 0 → g.nodes[i]? = some x →
        ∃ j, j ≠ 0 ∧ g'.nodes[j]? = some x ∧ (g'.isOrphan j = true → g.isOrphan i = true)) ∧
      (g'.unresolved.filter fun u => u.source ∈ old.map Resource.key).Sublist g.unresolved ∧
      (∀ a ∈ g.keys, ∀ b ∈ g.keys,
        g'.keyEdges.count ⟨a, b, .references⟩ = g.keyEdges.count ⟨a, b, .references⟩) ∧
      ∀ a ∈ g.keys, ∀ b ∈ g.keys, a ≠ root.key →
        g'.keyEdges.count ⟨a, b, .owns⟩ = g.keyEdges.count ⟨a, b, .owns⟩ := by
  intro g g'
  have hwithin : g.Within g' := within_linkAll hall hnew
  have hroot : g.root = root := root_linkAll root old false
  refine ⟨?_, ?_, ?_, ?_⟩
  · intro i x hi hx
    have hmem : x ∈ g'.members := hwithin.members_subset (mem_members_iff.mpr ⟨i, hi, hx⟩)
    obtain ⟨j, hj, hx'⟩ := mem_members_iff.mp hmem
    exact ⟨j, hj, hx', hwithin.isOrphan_of_isOrphan hi hj hx hx'⟩
  · refine List.Sublist.trans ?_ hwithin.unresolved_sublist
    apply List.monotone_filter_right
    intro u hu
    exact decide_eq_true (mem_keys_linkAll.mpr (.inr (of_decide_eq_true hu)))
  · intro a ha b hb
    exact hwithin.count_keyEdges ⟨ha, hb, fun h => by cases h⟩
  · intro a ha b hb hne
    exact hwithin.count_keyEdges ⟨ha, hb, fun _ => hroot ▸ hne⟩

/-- A service account that nothing uses, and then a pod before it that runs as it. -/
theorem growth_keeps_use_pod_before_account :
    let root : Resource := { kind := "cluster", name := "prod" }
    let account : Resource := { kind := "ServiceAccount", name := "runner", ns := some "apps" }
    let pod : Resource :=
      { kind := "Pod", name := "web", ns := some "apps"
        relations := [{ kind := "ServiceAccount", name := "Runner", ns := some "apps" }] }
    Inserted [pod] [account] [pod, account] ∧
      (∀ r ∈ [pod], r.key ∉ [account].map Resource.key) ∧
      (linkAll root [account] false).isOrphan 1 = true ∧
      (linkAll root [pod, account] false).isOrphan 2 = false ∧
      ∀ i x, i ≠ 0 → (linkAll root [account] false).nodes[i]? = some x →
        ∃ j, j ≠ 0 ∧ (linkAll root [pod, account] false).nodes[j]? = some x ∧
          ((linkAll root [pod, account] false).isOrphan j = true →
            (linkAll root [account] false).isOrphan i = true) := by
  intro root account pod
  have hall : Inserted [pod] [account] [pod, account] := .added pod (.old account .nil)
  have hnew : ∀ r ∈ [pod], r.key ∉ [account].map Resource.key := by decide +kernel
  exact ⟨hall, hnew, by decide +kernel, by decide +kernel,
    (growth_keeps_use root [pod] [account] [pod, account] hall hnew).1⟩

end Lineage

end ClusterLineage
