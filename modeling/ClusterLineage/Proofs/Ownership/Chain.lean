import ClusterLineage.Proofs.Lineage.Neighbours
import ClusterLineage.Proofs.Lineage.Numbers
import ClusterLineage.Lineage.Ownership
import Mathlib.Data.Fintype.Pigeonhole
import Mathlib.Logic.Relation

/-!
# The chain of owners above a node

In a linked lineage every node but the cluster has one owner.  The chain of owners is cut after as
many steps as there are nodes; nothing is lost by that, since an owner that is further up is met
earlier as well.
-/

namespace ClusterLineage

/-- The owners that a function gives, one above the other, so many steps up. -/
def chainFrom (parent? : Nat → Option Nat) : Nat → Nat → List Nat
  | 0, _ => []
  | fuel + 1, i =>
    match parent? i with
    | none => []
    | some p => p :: chainFrom parent? fuel p

section Chain

variable {parent? : Nat → Option Nat} {size i p : Nat}

/-- The node that is some steps up. -/
def upBy (parent? : Nat → Option Nat) : Nat → Nat → Option Nat
  | 0, i => some i
  | steps + 1, i => (parent? i).bind (upBy parent? steps)

theorem upBy_add (parent? : Nat → Option Nat) (m n i : Nat) :
    upBy parent? (m + n) i = (upBy parent? m i).bind (upBy parent? n) := by
  induction m generalizing i with
  | zero => simp [upBy]
  | succ m ih =>
    rw [Nat.succ_add, upBy, upBy, Option.bind_assoc]
    congr
    funext q
    exact ih q

theorem mem_chainFrom_iff_upBy {fuel : Nat} :
    p ∈ chainFrom parent? fuel i ↔ ∃ n < fuel, upBy parent? (n + 1) i = some p := by
  induction fuel generalizing i with
  | zero => simp [chainFrom]
  | succ fuel ih =>
    rw [chainFrom]
    cases hi : parent? i with
    | none => simp [upBy, hi]
    | some q =>
      simp only [List.mem_cons, ih]
      constructor
      · rintro (rfl | ⟨n, hn, hup⟩)
        · exact ⟨0, Nat.succ_pos fuel, by simp [upBy, hi]⟩
        · exact ⟨n + 1, by omega, by rw [upBy, hi, Option.bind_some, hup]⟩
      · rintro ⟨n, hn, hup⟩
        rw [upBy, hi, Option.bind_some] at hup
        cases n with
        | zero => exact .inl (Option.some.inj hup).symm
        | succ n => exact .inr ⟨n, by omega, hup⟩

theorem transGen_iff_upBy :
    Relation.TransGen (fun p c => parent? c = some p) p i ↔
      ∃ n, upBy parent? (n + 1) i = some p := by
  constructor
  · intro h
    induction h with
    | single hstep => exact ⟨0, by simp [upBy, hstep]⟩
    | tail _ hstep ih =>
      obtain ⟨n, hup⟩ := ih
      exact ⟨n + 1, by rw [upBy, hstep, Option.bind_some, hup]⟩
  · rintro ⟨n, hup⟩
    induction n generalizing i with
    | zero => exact .single (by simpa [upBy] using hup)
    | succ n ih =>
      rw [upBy] at hup
      obtain ⟨q, hq, hup⟩ := Option.bind_eq_some_iff.mp hup
      exact .tail (ih hup) hq

/-- Among more steps than there are nodes some node comes twice, and the way between can be left
out. -/
theorem exists_upBy_lt
    (hlt : ∀ c p, parent? c = some p → p < size)
    {n : Nat}
    (h : upBy parent? (n + 1) i = some p) :
    ∃ m < size, upBy parent? (m + 1) i = some p := by
  induction n using Nat.strongRecOn with
  | ind n ih =>
    by_cases hn : n < size
    · exact ⟨n, hn, h⟩
    · have hstep : ∀ k : Fin (size + 1), ∃ q : Fin size, upBy parent? (k + 1) i = some q.val := by
        intro k
        have hsplit : n + 1 = (k.val + 1) + (n - k.val) := by omega
        rw [hsplit, upBy_add] at h
        obtain ⟨q, hq, -⟩ := Option.bind_eq_some_iff.mp h
        have hq' := hq
        rw [upBy_add] at hq'
        obtain ⟨c, -, hc⟩ := Option.bind_eq_some_iff.mp hq'
        exact ⟨⟨q, hlt c q (by simpa [upBy] using hc)⟩, hq⟩
      choose q hq using hstep
      obtain ⟨a, b, hab, hsame⟩ :=
        Fintype.exists_ne_map_eq_of_card_lt q (by simp)
      have hcut : ∀ a b : Fin (size + 1), a.val < b.val → q a = q b →
          ∃ m < size, upBy parent? (m + 1) i = some p := by
        intro a b hab hsame
        apply ih (a.val + (n - b.val)) (by omega)
        have hlong : n + 1 = (b.val + 1) + (n - b.val) := by omega
        have hshort : a.val + (n - b.val) + 1 = (a.val + 1) + (n - b.val) := by omega
        rw [hlong, upBy_add, hq b, ← hsame, ← hq a, ← upBy_add] at h
        rw [hshort, h]
      rcases Nat.lt_or_gt_of_ne (Fin.val_ne_of_ne hab) with hlt' | hlt'
      · exact hcut a b hlt' hsame
      · exact hcut b a hlt' hsame.symm

/-- As many steps up as there are nodes lead to every owner above. -/
theorem mem_chainFrom_iff (hlt : ∀ c p, parent? c = some p → p < size) :
    p ∈ chainFrom parent? size i ↔ Relation.TransGen (fun p c => parent? c = some p) p i := by
  rw [mem_chainFrom_iff_upBy, transGen_iff_upBy]
  constructor
  · rintro ⟨n, -, hup⟩
    exact ⟨n, hup⟩
  · rintro ⟨n, hup⟩
    exact exists_upBy_lt hlt hup

/-- A chain ends where there is no further owner. -/
theorem getLast?_chainFrom
    {fuel : Nat}
    (hend : parent? p = none)
    (hmem : p ∈ chainFrom parent? fuel i) :
    (chainFrom parent? fuel i).getLast? = some p := by
  induction fuel generalizing i with
  | zero => simp [chainFrom] at hmem
  | succ fuel ih =>
    rw [chainFrom] at hmem ⊢
    cases hi : parent? i with
    | none => simp [hi] at hmem
    | some q =>
      simp only [hi, List.mem_cons] at hmem ⊢
      by_cases hp : p ∈ chainFrom parent? fuel q
      · have hlast := ih hp
        obtain ⟨a, rest, hcons⟩ := List.exists_cons_of_ne_nil (List.ne_nil_of_mem hp)
        rw [hcons] at hlast ⊢
        rw [List.getLast?_cons_cons, hlast]
      · obtain rfl : p = q := hmem.resolve_right hp
        have hnone : chainFrom parent? fuel p = [] := by
          cases fuel with
          | zero => rfl
          | succ fuel => simp [chainFrom, hend]
        rw [hnone]
        rfl

end Chain

namespace Lineage

open Links

variable {g : Lineage} {i p q c : Nat}

/-- A node owns another one. -/
def Owns (g : Lineage) (p c : Nat) : Prop :=
  (⟨p, c, .owns⟩ : Edge) ∈ g.edges

/-- All owners above a node, the nearest first.  As many steps as there are nodes lead to the
cluster or all around a cycle. -/
def owners (g : Lineage) (i : Nat) : List Nat :=
  chainFrom g.parent? g.size i

/-- The number of the owner that a node declares: the node that its first owner names, or else the
cluster. -/
def declaredOwner (g : Lineage) (i : Nat) : Nat :=
  (g.nodes[i]?.map (ownerOf g.keys)).getD 0

theorem type_of_mem_selectorEdges
    {members : List Resource} {e : Edge}
    (h : e ∈ selectorEdges members) :
    e.type = .references := by
  obtain ⟨⟨r, i⟩, -, h⟩ := List.mem_flatMap.mp h
  obtain ⟨⟨target, j⟩, -, h⟩ := List.mem_flatMap.mp h
  dsimp only at h
  split at h
  · rcases List.mem_pair.mp h with rfl | rfl
    · rfl
    · rfl
  · simp at h

theorem type_of_mem_relationEdges
    {keys : List Text} {members : List Resource} {e : Edge}
    (h : e ∈ relationEdges keys members) :
    e.type = .references := by
  obtain ⟨⟨r, i⟩, -, h⟩ := List.mem_flatMap.mp h
  obtain ⟨ref, -, h⟩ := List.mem_flatMap.mp h
  split at h
  · rcases List.mem_pair.mp h with rfl | rfl
    · rfl
    · rfl
  · simp at h

/-- Every node but the cluster has one owner, the one that it declares. -/
theorem owns_iff (hg : g.isLinked = true) :
    g.Owns p c ↔ c ≠ 0 ∧ c < g.size ∧ g.declaredOwner c = p := by
  have hedges : g.edges = ownerEdges g.keys g.members ++ selectorEdges g.members ++
      relationEdges g.keys g.members := by
    rw [edges, g.links_of_linked hg]
    rfl
  rw [Owns, hedges, List.mem_append, List.mem_append]
  constructor
  · rintro ((h | h) | h)
    · obtain ⟨⟨r, i⟩, hr, heq⟩ := List.mem_map.mp h
      have hnode : i ≠ 0 ∧ g.nodes[i]? = some r := mem_numbered.mp hr
      simp only [Edge.mk.injEq] at heq
      obtain ⟨rfl, rfl, -⟩ := heq
      refine ⟨hnode.1, (List.getElem?_eq_some_iff.mp hnode.2).1, ?_⟩
      rw [declaredOwner, hnode.2, Option.map_some, Option.getD_some]
    · exact absurd (type_of_mem_selectorEdges h) (by simp)
    · exact absurd (type_of_mem_relationEdges h) (by simp)
  · rintro ⟨hc, hsize, rfl⟩
    refine .inl (.inl (List.mem_map.mpr ⟨(g.nodes[c], c), ?_, ?_⟩))
    · exact mem_numbered.mpr ⟨hc, List.getElem?_eq_getElem hsize⟩
    · simp [declaredOwner, List.getElem?_eq_getElem hsize]

theorem Owns.unique
    (hg : g.isLinked = true)
    (hp : g.Owns p c)
    (hq : g.Owns q c) :
    p = q :=
  ((owns_iff hg).mp hp).2.2.symm.trans ((owns_iff hg).mp hq).2.2

/-- The owner of a node is a node. -/
theorem declaredOwner_lt (g : Lineage) (i : Nat) : g.declaredOwner i < g.size := by
  unfold declaredOwner
  cases g.nodes[i]? with
  | none => exact Nat.succ_pos _
  | some r =>
    rw [Option.map_some, Option.getD_some, ownerOf]
    cases hfind : r.owners.head?.bind (resolve? g.keys) with
    | none => exact Nat.succ_pos _
    | some p =>
      obtain ⟨owner, -, hp⟩ := Option.bind_eq_some_iff.mp hfind
      have hkey := (resolve?_eq_some_iff g.keys_nodup).mp hp
      rw [← keyAt?_eq_getElem?] at hkey
      exact lt_size_of_keyAt? hkey

theorem Owns.lt_size
    (hg : g.isLinked = true)
    (h : g.Owns p c) :
    c < g.size :=
  ((owns_iff hg).mp h).2.1

theorem Owns.source_lt_size
    (hg : g.isLinked = true)
    (h : g.Owns p c) :
    p < g.size := by
  obtain ⟨-, -, rfl⟩ := (owns_iff hg).mp h
  exact declaredOwner_lt g c

theorem parent?_eq_some_iff (hg : g.isLinked = true) : g.parent? c = some p ↔ g.Owns p c := by
  rw [parent?, Option.map_eq_some_iff]
  constructor
  · rintro ⟨⟨s, t, type⟩, hfind, rfl⟩
    have htest := List.find?_some hfind
    simp only [Bool.and_eq_true, beq_iff_eq] at htest
    obtain ⟨rfl, rfl⟩ := htest
    exact List.mem_of_find?_eq_some hfind
  · intro hp
    cases hfind : g.edges.find? fun e => e.type == .owns && e.target == c with
    | none =>
      have hnone := List.find?_eq_none.mp hfind _ hp
      simp at hnone
    | some e =>
      obtain ⟨s, t, type⟩ := e
      have htest := List.find?_some hfind
      simp only [Bool.and_eq_true, beq_iff_eq] at htest
      obtain ⟨rfl, rfl⟩ := htest
      have hs : g.Owns s t := List.mem_of_find?_eq_some hfind
      exact ⟨_, rfl, hs.unique hg hp⟩

/-- The owners above a node are all that own it, directly or not. -/
theorem mem_owners_iff (hg : g.isLinked = true) :
    p ∈ g.owners c ↔ Relation.TransGen g.Owns p c := by
  have hstep : (fun p c => g.parent? c = some p) = g.Owns := by
    funext p c
    exact propext (parent?_eq_some_iff hg)
  rw [owners, mem_chainFrom_iff, hstep]
  intro c p hp
  exact ((parent?_eq_some_iff hg).mp hp).source_lt_size hg

end Lineage

end ClusterLineage
