import ClusterLineage.Lineage.Neighbours
import ClusterLineage.Proofs.Text.Lowercase
import Mathlib.Data.List.Nodup

/-!
# Numbers and keys of nodes

A node can be given by its number or by its key.  No two nodes have the same key, so the two ways of
naming a node say the same: every number up to the size of the lineage belongs to one key, and every
key of a node to one number.
-/

namespace ClusterLineage

/-- Going through all positions of a list gives the list. -/
theorem filterMap_getElem?_range {α : Type} (l : List α) :
    (List.range l.length).filterMap (l[·]?) = l := by
  induction l with
  | nil => rfl
  | cons a l ih =>
    rw [List.length_cons, List.range_succ_eq_map, List.filterMap_cons, List.filterMap_map]
    exact congrArg (a :: ·) ih

namespace Links

/-- The resources other than the cluster have the numbers from one on. -/
theorem mem_numbered
    {root r : Resource} {members : List Resource} {i : Nat} :
    (r, i) ∈ numbered members ↔ i ≠ 0 ∧ (root :: members)[i]? = some r := by
  rw [numbered, List.mk_mem_zipIdx_iff_le_and_getElem?_sub]
  cases i with
  | zero => simp
  | succ i => simp

theorem map_fst_numbered (members : List Resource) :
    (numbered members).map Prod.fst = members :=
  List.zipIdx_map_fst 1 members

/-- What is collected from the numbered resources without a look at the numbers is collected from
the resources. -/
theorem flatMap_numbered
    {α : Type} (members : List Resource) (f : Resource → List α) :
    ((numbered members).flatMap fun p => f p.1) = members.flatMap f := by
  conv_rhs => rw [← map_fst_numbered members, List.flatMap_map]

theorem resolve?_eq_some_iff
    {keys : List Text} {ref : Ref} {i : Nat}
    (hkeys : keys.Nodup) :
    resolve? keys ref = some i ↔ keys[i]? = some ref.key := by
  rw [resolve?, List.idxOf?_eq_some_iff]
  constructor
  · rintro ⟨hi, hkey, -⟩
    rw [List.getElem?_eq_getElem hi, hkey]
  · intro h
    obtain ⟨hi, hkey⟩ := List.getElem?_eq_some_iff.mp h
    refine ⟨hi, hkey, fun j hj hjkey => ?_⟩
    have hij : j = i := (hkeys.getElem_inj_iff).mp (hjkey.trans hkey.symm)
    omega

theorem resolve?_eq_none_iff {keys : List Text} {ref : Ref} :
    resolve? keys ref = none ↔ ref.key ∉ keys := by
  simp [resolve?]

end Links

namespace Lineage

variable {g : Lineage} {i j : Nat} {a k : Text} {r : Resource}

theorem keys_nodup (g : Lineage) : g.keys.Nodup :=
  g.nodup_keys

theorem keyAt?_eq_getElem? (g : Lineage) (i : Nat) : g.keyAt? i = g.keys[i]? := by
  simp [keyAt?, keys]

theorem keyAt?_eq_some_iff :
    g.keyAt? i = some k ↔ ∃ r, g.nodes[i]? = some r ∧ r.key = k := by
  simp [keyAt?]

theorem keyAt?_of_getElem? (h : g.nodes[i]? = some r) : g.keyAt? i = some r.key := by
  simp [keyAt?, h]

@[simp]
theorem keyAt?_zero (g : Lineage) : g.keyAt? 0 = some g.root.key := rfl

/-- Two nodes with the same key are one node. -/
theorem keyAt?_inj
    (hi : g.keyAt? i = some k)
    (hj : g.keyAt? j = some k) :
    i = j := by
  rw [keyAt?_eq_getElem?] at hi hj
  obtain ⟨hi, hik⟩ := List.getElem?_eq_some_iff.mp hi
  obtain ⟨hj, hjk⟩ := List.getElem?_eq_some_iff.mp hj
  exact (g.keys_nodup.getElem_inj_iff).mp (hik.trans hjk.symm)

theorem lt_size_of_keyAt? (h : g.keyAt? i = some k) : i < g.size := by
  obtain ⟨r, hr, -⟩ := keyAt?_eq_some_iff.mp h
  exact (List.getElem?_eq_some_iff.mp hr).1

theorem exists_keyAt? (h : i < g.size) : ∃ k, g.keyAt? i = some k :=
  ⟨_, keyAt?_of_getElem? (List.getElem?_eq_getElem h)⟩

theorem mem_keys_iff : k ∈ g.keys ↔ ∃ i, g.keyAt? i = some k := by
  simp only [keyAt?_eq_getElem?, List.mem_iff_getElem?]

/-- The resources other than the cluster are the nodes with a number other than zero. -/
theorem mem_members_iff : r ∈ g.members ↔ ∃ i, i ≠ 0 ∧ g.nodes[i]? = some r := by
  rw [List.mem_iff_getElem?]
  constructor
  · rintro ⟨i, hi⟩
    exact ⟨i + 1, Nat.succ_ne_zero i, hi⟩
  · rintro ⟨i, hi, hr⟩
    cases i with
    | zero => exact absurd rfl hi
    | succ i => exact ⟨i, hr⟩

theorem key_inj_of_mem_members
    {s : Resource}
    (hr : r ∈ g.members)
    (hs : s ∈ g.members)
    (hkey : r.key = s.key) :
    r = s := by
  have hnodup : (g.members.map Resource.key).Nodup := (List.nodup_cons.mp g.nodup_keys).2
  exact List.inj_on_of_nodup_map hnodup hr hs hkey

/-- No resource has the key of the cluster. -/
theorem root_key_not_mem (g : Lineage) : g.root.key ∉ g.members.map Resource.key :=
  (List.nodup_cons.mp g.nodup_keys).1

theorem key_ne_root_of_mem_members (hr : r ∈ g.members) : r.key ≠ g.root.key := by
  intro hkey
  exact root_key_not_mem g (hkey ▸ List.mem_map_of_mem hr)

/-- Looking up a key in any letter case gives the node that has it. -/
theorem indexOf?_eq_some_iff : g.indexOf? k = some i ↔ g.keyAt? i = some (Text.lower k) := by
  rw [keyAt?_eq_getElem?, indexOf?, List.idxOf?_eq_some_iff, List.getElem?_eq_some_iff]
  constructor
  · rintro ⟨hi, hkey, -⟩
    exact ⟨hi, hkey⟩
  · rintro ⟨hi, hkey⟩
    refine ⟨hi, hkey, fun m hm hmkey => ?_⟩
    have hmi : m = i := (g.keys_nodup.getElem_inj_iff).mp (hmkey.trans hkey.symm)
    omega

/-- A key of a node leads back to the node. -/
theorem indexOf?_of_keyAt? (h : g.keyAt? i = some k) : g.indexOf? k = some i := by
  obtain ⟨r, -, rfl⟩ := keyAt?_eq_some_iff.mp h
  rw [indexOf?_eq_some_iff, h, Resource.lower_key]

/-- The nodes other than the cluster have the keys of the resources. -/
theorem filterMap_keyAt?_ne_zero (g : Lineage) :
    ((List.range g.size).filter (· != 0)).filterMap g.keyAt? = g.members.map Resource.key := by
  have hrange : (List.range g.size).filter (· != 0) =
      (List.range (g.members.map Resource.key).length).map (· + 1) := by
    rw [size, nodes, List.length_cons, List.range_succ_eq_map, List.filter_cons_of_neg (by simp),
      List.filter_eq_self.mpr (by simp), List.length_map]
  rw [hrange, List.filterMap_map]
  conv_rhs => rw [← filterMap_getElem?_range (g.members.map Resource.key)]
  apply List.filterMap_congr
  intro i _
  rw [Function.comp_apply, keyAt?_eq_getElem?]
  rfl

end Lineage

end ClusterLineage
