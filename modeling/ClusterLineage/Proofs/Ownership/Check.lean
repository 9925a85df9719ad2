import ClusterLineage.Lineage.Selection
import ClusterLineage.Proofs.Lineage.Session
import ClusterLineage.Proofs.Ownership.Walks

/-!
# The check of ownership

Linking with validation fails exactly if the declared owners above some resource never lead to the
cluster, and then it names a cycle.  If it succeeds, ownership is a tree below the cluster.  What is
linked does not depend on the check.
-/

namespace ClusterLineage

namespace Lineage

variable {g : Lineage} {i s : Nat}

/-- The node with one key owns the node with another. -/
def OwnsKey (g : Lineage) (a b : Text) : Prop :=
  ∃ i j, g.keyAt? i = some a ∧ g.keyAt? j = some b ∧ g.Owns i j

/-- Ownership is a tree: nothing owns the cluster, everything else has one owner, and all chains of
owners end at the cluster. -/
structure OwnershipTree (g : Lineage) : Prop where
  root_free : ∀ p, ¬g.Owns p 0
  one_owner : ∀ c, c ≠ 0 → c < g.size → ∃! p, g.Owns p c
  chain_end : ∀ c, c ≠ 0 → c < g.size → (g.owners c).getLast? = some 0
  below_root : ∀ c, c < g.size → Relation.ReflTransGen g.Owns 0 c

theorem owns_declaredOwner
    (hg : g.isLinked = true)
    (hi : i ≠ 0)
    (hsize : i < g.size) :
    g.Owns (g.declaredOwner i) i :=
  (owns_iff hg).mpr ⟨hi, hsize, rfl⟩

theorem ownershipCycle?_eq_none_iff (hg : g.isLinked = true) :
    g.ownershipCycle? = none ↔ ∀ i < g.size, ¬OnCycle g.Owns i := by
  have h := @firstCycle?_eq_none_iff (g.successors · .owns) g.size
  rw [owned_successors] at h
  exact h (fun p q c hp hq => hp.unique hg hq) (fun p c hc => hc.lt_size hg)

theorem isCycle_of_ownershipCycle?_eq_some
    (hg : g.isLinked = true)
    {cycle : List Nat}
    (h : g.ownershipCycle? = some cycle) :
    IsCycle g.Owns cycle ∧
      ∃ s, cycle.head? = some s ∧ OnCycle g.Owns s ∧ ∀ i < s, ¬OnCycle g.Owns i := by
  have hfirst := @isCycle_of_firstCycle?_eq_some (g.successors · .owns) g.size
  rw [owned_successors] at hfirst
  exact hfirst (fun p q c hp hq => hp.unique hg hq) (fun p c hc => hc.lt_size hg) h

/-- The keys that are named are those of the nodes around the cycle. -/
theorem isCycle_of_cycleKeys?_eq_some
    (hg : g.isLinked = true)
    {keys : List Text}
    (h : g.cycleKeys? = some keys) :
    IsCycle g.OwnsKey keys ∧
      ∃ s k, keys.head? = some k ∧ g.keyAt? s = some k ∧ OnCycle g.Owns s ∧
        ∀ i < s, ¬OnCycle g.Owns i := by
  obtain ⟨cycle, hcycle, rfl⟩ := Option.map_eq_some_iff.mp h
  obtain ⟨hiscycle, s, hhead, hs, hearliest⟩ := isCycle_of_ownershipCycle?_eq_some hg hcycle
  let name (i : Nat) : Text := (g.keyAt? i).getD g.root.key
  have hname : ∀ i < g.size, g.keyAt? i = some (name i) := by
    intro i hi
    obtain ⟨k, hk⟩ := exists_keyAt? hi
    simp only [name, hk, Option.getD_some]
  have hnodes : ∀ i ∈ cycle, i < g.size := by
    intro i hi
    obtain ⟨p, hp⟩ := hiscycle.exists_owner hi
    exact hp.lt_size hg
  have hkeys : cycle.filterMap g.keyAt? = cycle.map name := by
    rw [List.filterMap_congr fun i hi => hname i (hnodes i hi)]
    exact congrFun List.filterMap_eq_map cycle
  have hinj : ∀ a ∈ cycle, ∀ b ∈ cycle, name a = name b → a = b := by
    intro a ha b hb hab
    have hka := hname a (hnodes a ha)
    rw [hab] at hka
    exact keyAt?_inj hka (hname b (hnodes b hb))
  have howns : ∀ a b, g.Owns a b → g.OwnsKey (name a) (name b) := by
    intro a b hab
    exact ⟨a, b, hname a (hab.source_lt_size hg), hname b (hab.lt_size hg), hab⟩
  rw [hkeys]
  refine ⟨hiscycle.map name hinj howns, s, name s, ?_, ?_, hs, hearliest⟩
  · rw [List.head?_map, hhead, Option.map_some]
  · exact hname s (hnodes s (List.mem_of_head? hhead))

/-- The declared owners lead from a node to the cluster just if the cluster owns it in the end. -/
theorem exists_iterate_eq_zero_iff
    (hg : g.isLinked = true)
    (hi : i < g.size) :
    (∃ n, g.declaredOwner^[n] i = 0) ↔ Relation.ReflTransGen g.Owns 0 i := by
  constructor
  · rintro ⟨n, hn⟩
    induction n generalizing i with
    | zero =>
      obtain rfl : i = 0 := hn
      exact .refl
    | succ n ih =>
      by_cases hzero : i = 0
      · rw [hzero]
      · exact .tail (ih (declaredOwner_lt g i) hn) (owns_declaredOwner hg hzero hi)
  · intro h
    clear hi
    induction h with
    | refl => exact ⟨0, rfl⟩
    | @tail p c _ hpc ih =>
      obtain ⟨n, hn⟩ := ih
      refine ⟨n + 1, ?_⟩
      rw [Function.iterate_succ_apply, ((owns_iff hg).mp hpc).2.2, hn]

/-- Above a node of a cycle are nodes of the cycle, and the cluster is not on any. -/
theorem iterate_ne_zero_of_onCycle
    (hg : g.isLinked = true)
    (hs : OnCycle g.Owns s)
    (n : Nat) :
    g.declaredOwner^[n] s ≠ 0 := by
  have hcycle : OnCycle g.Owns (g.declaredOwner^[n] s) := by
    induction n generalizing s with
    | zero => exact hs
    | succ n ih =>
      obtain ⟨p, hp, hps⟩ := Relation.TransGen.tail'_iff.mp hs
      rw [Function.iterate_succ_apply, ((owns_iff hg).mp hps).2.2]
      exact ih (Relation.TransGen.head' hps hp)
  intro hzero
  rw [hzero] at hcycle
  obtain ⟨p, -, hp⟩ := Relation.TransGen.tail'_iff.mp hcycle
  exact not_owns_zero hg p hp

theorem iterate_declaredOwner_lt
    (hi : i < g.size)
    (n : Nat) :
    g.declaredOwner^[n] i < g.size := by
  cases n with
  | zero => exact hi
  | succ n =>
    rw [Function.iterate_succ_apply']
    exact declaredOwner_lt g _

/-- As long as the declared owners do not lead to the cluster, each is owned by those after it. -/
theorem transGen_iterate
    (hg : g.isLinked = true)
    (hi : i < g.size)
    (hnever : ∀ n, g.declaredOwner^[n] i ≠ 0)
    (m n : Nat) :
    Relation.TransGen g.Owns (g.declaredOwner^[m + (n + 1)] i) (g.declaredOwner^[m] i) := by
  have hstep : ∀ k, g.Owns (g.declaredOwner^[k + 1] i) (g.declaredOwner^[k] i) := by
    intro k
    rw [Function.iterate_succ_apply']
    exact owns_declaredOwner hg (hnever k) (iterate_declaredOwner_lt hi k)
  induction n with
  | zero => exact .single (hstep m)
  | succ n ih => exact .head (hstep (m + (n + 1))) ih

/-- Declared owners that never lead to the cluster lead around a cycle, since there are only
finitely many nodes. -/
theorem exists_onCycle_of_iterate_ne_zero
    (hg : g.isLinked = true)
    (hi : i < g.size)
    (hnever : ∀ n, g.declaredOwner^[n] i ≠ 0) :
    ∃ s < g.size, OnCycle g.Owns s := by
  obtain ⟨m, n, hmn, hsame⟩ :=
    Finite.exists_ne_map_eq_of_infinite fun n => (⟨_, iterate_declaredOwner_lt hi n⟩ : Fin g.size)
  have hcycle : ∀ m n, m < n → g.declaredOwner^[m] i = g.declaredOwner^[n] i →
      ∃ s < g.size, OnCycle g.Owns s := by
    intro m n hmn hsame
    refine ⟨g.declaredOwner^[m] i, iterate_declaredOwner_lt hi m, ?_⟩
    have h := transGen_iterate hg hi hnever m (n - m - 1)
    rw [show m + (n - m - 1 + 1) = n by omega, ← hsame] at h
    exact h
  have hval := Fin.val_eq_of_eq hsame
  rcases Nat.lt_or_gt_of_ne hmn with hmn | hmn
  · exact hcycle m n hmn hval
  · exact hcycle n m hmn hval.symm

/-- There is a cycle just if the declared owners above some resource never lead to the cluster. -/
theorem cycleKeys?_eq_none_iff (hg : g.isLinked = true) :
    g.cycleKeys? = none ↔ ∀ i < g.size, ∃ n, g.declaredOwner^[n] i = 0 := by
  rw [cycleKeys?, Option.map_eq_none_iff, ownershipCycle?_eq_none_iff hg]
  constructor
  · intro hnone i hi
    by_contra hnever
    obtain ⟨s, hs, hcycle⟩ :=
      exists_onCycle_of_iterate_ne_zero hg hi (fun n hn => hnever ⟨n, hn⟩)
    exact hnone s hs hcycle
  · intro hreach s hs hcycle
    obtain ⟨n, hn⟩ := hreach s hs
    exact iterate_ne_zero_of_onCycle hg hcycle n hn

/-- Without a cycle ownership is a tree. -/
theorem ownershipTree_of_cycleKeys?_eq_none
    (hg : g.isLinked = true)
    (h : g.cycleKeys? = none) :
    g.OwnershipTree := by
  have hbelow : ∀ c, c < g.size → Relation.ReflTransGen g.Owns 0 c := by
    intro c hc
    exact (exists_iterate_eq_zero_iff hg hc).mp ((cycleKeys?_eq_none_iff hg).mp h c hc)
  refine ⟨not_owns_zero hg, ?_, ?_, hbelow⟩
  · intro c hc hsize
    exact ⟨_, owns_declaredOwner hg hc hsize, fun p hp => hp.unique hg
      (owns_declaredOwner hg hc hsize)⟩
  · intro c hc hsize
    have habove : 0 ∈ g.owners c := by
      rw [mem_owners_iff hg]
      exact (Relation.reflTransGen_iff_eq_or_transGen.mp (hbelow c hsize)).resolve_left hc
    apply getLast?_chainFrom _ habove
    rw [Option.eq_none_iff_forall_ne_some]
    intro p hp
    exact not_owns_zero hg p ((parent?_eq_some_iff hg).mp hp)

/-- In a tree everything is below the cluster. -/
theorem shown_withDescendants_zero
    (hg : g.isLinked = true)
    (h : g.OwnershipTree) :
    Selection.shown (g.withDescendants [0]) = (List.range g.size).filter (· != 0) := by
  rw [Selection.shown, withDescendants, extend, List.filter_filter]
  apply List.filter_congr
  intro i hi
  by_cases hzero : i = 0
  · simp [hzero]
  · have hbelow : Relation.TransGen g.Owns 0 i :=
      (Relation.reflTransGen_iff_eq_or_transGen.mp
        (h.below_root i (List.mem_range.mp hi))).resolve_left hzero
    have hmem : i ∈ g.descendants 0 := (mem_descendants hg hzero).mpr hbelow
    simp [hzero, hmem]

/-- There is a cycle to name just if the declared owners above some resource never lead to the
cluster. -/
theorem cycleKeys?_ne_none_iff (hg : g.isLinked = true) :
    g.cycleKeys? ≠ none ↔ ∃ i, i ≠ 0 ∧ i < g.size ∧ ∀ n, g.declaredOwner^[n] i ≠ 0 := by
  rw [ne_eq, cycleKeys?_eq_none_iff hg]
  push Not
  constructor
  · rintro ⟨i, hi, hnever⟩
    exact ⟨i, hnever 0, hi, hnever⟩
  · rintro ⟨i, -, hi, hnever⟩
    exact ⟨i, hi, hnever⟩

/-- In a tree the descendants of the cluster are all resources. -/
theorem descendants_root_eq
    (hg : g.isLinked = true)
    (h : g.OwnershipTree) :
    (g.select? g.root.key).map (fun s =>
        g.sortedKeys (Selection.shown (g.growAll s [.descendants]))) =
      some (Text.sorted (g.members.map Resource.key)) := by
  have hselect : g.select? g.root.key = some [0] := by
    rw [select?, indexOf?_of_keyAt? (keyAt?_zero g), Option.map_some]
  rw [hselect, Option.map_some]
  change some (g.sortedKeys (Selection.shown (g.withDescendants [0]))) = _
  rw [shown_withDescendants_zero hg h, sortedKeys, filterMap_keyAt?_ne_zero]

/-- The check of ownership is exact.  Linking with validation fails just if the declared owners
above some resource never lead to the cluster.  If it fails, it names the keys around a cycle, the
first of them that of the earliest node on any cycle.  If it does not, ownership is a tree, and the
descendants of the cluster are all resources.  The linked lineage is the same without the check. -/
theorem ownership_check_exact (g : Lineage) (hg : g.isLinked = false) :
    let linked := (g.link true).lineage
    ((∃ keys, (g.link true).outcome = .error (.ownershipCycle keys)) ↔
        ∃ i, i ≠ 0 ∧ i < g.size ∧ ∀ n, g.declaredOwner^[n] i ≠ 0) ∧
      (∀ e, (g.link true).outcome = .error e →
        ∃ keys, e = .ownershipCycle keys ∧ IsCycle linked.OwnsKey keys ∧
          ∃ s k, keys.head? = some k ∧ linked.keyAt? s = some k ∧ OnCycle linked.Owns s ∧
            ∀ i < s, ¬OnCycle linked.Owns i) ∧
      ((g.link true).outcome = .ok () →
        linked.OwnershipTree ∧
          (linked.select? g.root.key).map (fun s =>
              linked.sortedKeys (Selection.shown (linked.growAll s [.descendants]))) =
            some (Text.sorted (g.members.map Resource.key))) ∧
      linked = (g.link false).lineage := by
  have hlinked : g.withLinks.isLinked = true := isLinked_withLinks g
  intro linked
  have hlineage : linked = g.withLinks := lineage_link hg true
  rw [hlineage, lineage_link hg false]
  refine ⟨?_, ?_, ?_, rfl⟩
  · rw [exists_outcome_link_eq_error_iff hg, cycleKeys?_ne_none_iff hlinked]
    exact and_iff_right rfl
  · intro e he
    obtain ⟨-, keys, hkeys, rfl⟩ := (outcome_link_eq_error_iff hg).mp he
    exact ⟨keys, rfl, isCycle_of_cycleKeys?_eq_some hlinked hkeys⟩
  · intro hok
    have hnone : g.withLinks.cycleKeys? = none :=
      ((outcome_link_eq_ok_iff hg).mp hok).resolve_left (by simp)
    have htree := ownershipTree_of_cycleKeys?_eq_none hlinked hnone
    exact ⟨htree, descendants_root_eq hlinked htree⟩

/-- Two pods own each other, and a third one, which came before them, hangs below one of the two. -/
theorem ownership_check_tail_before_cycle :
    let g := (ofRoot { kind := "cluster", name := "prod" }).addAll
      [{ kind := "Pod", name := "tail", owners := [{ kind := "pod", name := "A" }] },
        { kind := "Pod", name := "a", owners := [{ kind := "pod", name := "b" }] },
        { kind := "Pod", name := "b", owners := [{ kind := "POD", name := "a" }] }]
    g.isLinked = false ∧
      (g.link true).outcome = .error (.ownershipCycle ["pod/a", "pod/b"]) ∧
      ∃ i, i ≠ 0 ∧ i < g.size ∧ ∀ n, g.declaredOwner^[n] i ≠ 0 := by
  intro g
  have hg : g.isLinked = false := by decide +kernel
  have houtcome : (g.link true).outcome = .error (.ownershipCycle ["pod/a", "pod/b"]) := by
    decide +kernel
  exact ⟨hg, houtcome, (ownership_check_exact g hg).1.mp ⟨_, houtcome⟩⟩

end Lineage

end ClusterLineage
