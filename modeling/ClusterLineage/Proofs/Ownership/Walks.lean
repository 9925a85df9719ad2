import ClusterLineage.Lineage.Walk
import ClusterLineage.Proofs.Ownership.Chain
import ClusterLineage.Proofs.Ownership.CycleSearch

/-!
# Where walks along ownership lead

A walk stops where it has been before, which might cut off what lies behind.  It does not: whatever
a walk has come to, it has looked at the owner, or at all that is owned, of every node of it.  So
what it has come to is closed under its steps, and a set that is closed under steps holds all that
they lead to.  The measure is the number of nodes that have not been passed, which each step makes
smaller.
-/

namespace ClusterLineage

open Relation

variable {size i x : Nat} {visited : List Nat}

/-- Numbers of nodes that have been passed, each once. -/
structure Passed (size : Nat) (visited : List Nat) : Prop where
  nodup : visited.Nodup
  lt : ∀ x ∈ visited, x < size

theorem Passed.cons
    (h : Passed size visited)
    (hi : i < size)
    (hnew : i ∉ visited) :
    Passed size (i :: visited) where
  nodup := List.nodup_cons.mpr ⟨hnew, h.nodup⟩
  lt := by
    intro x hx
    rcases List.mem_cons.mp hx with rfl | hx
    · exact hi
    · exact h.lt x hx

theorem Passed.single (hi : i < size) : Passed size [i] where
  nodup := by simp
  lt := by
    intro x hx
    rwa [List.mem_singleton.mp hx]

/-- When as many nodes have been passed as there are, none is left. -/
theorem Passed.mem_of_size_le
    (h : Passed size visited)
    (hfull : size ≤ visited.length)
    (hi : i < size) :
    i ∈ visited := by
  by_contra hnew
  have hcons := h.cons hi hnew
  have hlength := length_le_of_nodup_of_lt hcons.nodup hcons.lt
  rw [List.length_cons] at hlength
  omega

/-! ## Up -/

section Up

variable {parent? : Nat → Option Nat} {steps : Nat}

theorem transGen_of_mem_climb (h : x ∈ climb parent? steps visited i) :
    x ≠ 0 ∧ TransGen (fun p c => parent? c = some p) x i := by
  induction steps generalizing visited i with
  | zero => simp [climb] at h
  | succ steps ih =>
    rw [climb] at h
    split at h
    · simp at h
    · next p hp =>
      split at h
      · simp at h
      · next hstop =>
        rw [Bool.or_eq_true, not_or, decide_eq_true_eq] at hstop
        rcases List.mem_cons.mp h with rfl | h
        · exact ⟨hstop.1, .single hp⟩
        · obtain ⟨hx, hup⟩ := ih h
          exact ⟨hx, hup.tail hp⟩

/-- The owner of every node that a walk up has come to is the cluster or such a node itself, if that
is so for the nodes passed before its start. -/
theorem closed_climb
    (hlt : ∀ c p, parent? c = some p → p < size)
    (hpassed : Passed size visited)
    (hsteps : size ≤ steps + visited.length)
    (hchain : ∀ q ∈ visited, q ≠ i → ∀ p, parent? q = some p → p ∈ visited) :
    ∀ q, q ∈ visited ∨ q ∈ climb parent? steps visited i → ∀ p, parent? q = some p →
      p = 0 ∨ p ∈ visited ∨ p ∈ climb parent? steps visited i := by
  induction steps generalizing visited i with
  | zero =>
    intro q hq p hp
    rw [Nat.zero_add] at hsteps
    exact .inr (.inl (hpassed.mem_of_size_le hsteps (hlt q p hp)))
  | succ steps ih =>
    rw [climb]
    split
    · next hnone =>
      intro q hq p hp
      simp only [List.not_mem_nil, or_false] at hq ⊢
      refine .inr (hchain q hq ?_ p hp)
      rintro rfl
      rw [hnone] at hp
      cases hp
    · next r hr =>
      split
      · next hstop =>
        rw [Bool.or_eq_true, decide_eq_true_eq, List.contains_iff_mem] at hstop
        intro q hq p hp
        simp only [List.not_mem_nil, or_false] at hq ⊢
        by_cases hqi : q = i
        · subst hqi
          obtain rfl := Option.some.inj (hr.symm.trans hp)
          exact hstop
        · exact .inr (hchain q hq hqi p hp)
      · next hstop =>
        rw [Bool.or_eq_true, not_or, decide_eq_true_eq, List.contains_iff_mem] at hstop
        have hlonger : ∀ q ∈ r :: visited, q ≠ r → ∀ p, parent? q = some p → p ∈ r :: visited := by
          intro q hq hqr p hp
          have hq : q ∈ visited := (List.mem_cons.mp hq).resolve_left hqr
          by_cases hqi : q = i
          · subst hqi
            obtain rfl := Option.some.inj (hr.symm.trans hp)
            exact List.mem_cons_self
          · exact List.mem_cons_of_mem r (hchain q hq hqi p hp)
        have hrest := ih (hpassed.cons (hlt i r hr) hstop.2)
          (by rw [List.length_cons]; omega) hlonger
        intro q hq p hp
        have hmove : ∀ y, y ∈ visited ∨ y ∈ r :: climb parent? steps (r :: visited) r ↔
            y ∈ r :: visited ∨ y ∈ climb parent? steps (r :: visited) r := by
          intro y
          rw [List.mem_cons, List.mem_cons, or_left_comm, or_assoc]
        rw [hmove] at hq ⊢
        exact hrest q hq p hp

/-- A walk up leaves out none of the owners above but the cluster, which has no owner. -/
theorem mem_climb_of_transGen
    (hlt : ∀ c p, parent? c = some p → p < size)
    (hroot : parent? 0 = none)
    (hi : i < size)
    (hx : x ≠ 0)
    (h : TransGen (fun p c => parent? c = some p) x i) :
    x = i ∨ x ∈ climb parent? size [i] i := by
  have hclosed := closed_climb hlt (Passed.single hi) (Nat.le_add_right size 1)
    (fun q hq hqi => absurd (List.mem_singleton.mp hq) hqi)
  have hstep : ∀ q p, q = 0 ∨ q ∈ [i] ∨ q ∈ climb parent? size [i] i → parent? q = some p →
      p = 0 ∨ p ∈ [i] ∨ p ∈ climb parent? size [i] i := by
    rintro q p (rfl | hq) hp
    · rw [hroot] at hp
      cases hp
    · exact hclosed q hq p hp
  have hmem : x = 0 ∨ x ∈ [i] ∨ x ∈ climb parent? size [i] i := by
    clear hx
    induction h using TransGen.head_induction_on with
    | single hup => exact hstep i _ (.inr (.inl (List.mem_singleton_self i))) hup
    | head hup _ ih => exact hstep _ _ ih hup
  exact (hmem.resolve_left hx).imp_left List.mem_singleton.mp

/-- A walk up is not ended by the bound on its steps: with more steps it leads no further. -/
theorem climb_of_le
    {more : Nat}
    (hlt : ∀ c p, parent? c = some p → p < size)
    (hpassed : Passed size visited)
    (hsteps : size ≤ steps + visited.length)
    (hmore : steps ≤ more) :
    climb parent? more visited i = climb parent? steps visited i := by
  induction steps generalizing visited i more with
  | zero =>
    rw [Nat.zero_add] at hsteps
    cases more with
    | zero => rfl
    | succ more =>
      rw [climb, climb]
      split
      · rfl
      · next p hp =>
        have hseen : visited.contains p = true :=
          List.contains_iff_mem.mpr (hpassed.mem_of_size_le hsteps (hlt i p hp))
        rw [hseen, Bool.or_true, if_pos rfl]
  | succ steps ih =>
    obtain ⟨more, rfl⟩ : ∃ n, more = n + 1 := Nat.exists_eq_add_one.mpr (by omega)
    rw [climb, climb]
    split
    · rfl
    · next p hp =>
      split
      · rfl
      · next hstop =>
        rw [Bool.or_eq_true, not_or, List.contains_iff_mem] at hstop
        have hrest := ih (i := p) (hpassed.cons (hlt i p hp) hstop.2)
          (by rw [List.length_cons]; omega) (Nat.le_of_succ_le_succ hmore)
        rw [hrest]

end Up

/-! ## Down -/

section Down

variable {owned : Nat → List Nat} {levels : Nat} {js : List Nat}

theorem suffix_foldl
    {walk : List Nat → Nat → List Nat}
    (hwalk : ∀ visited j, visited <:+ walk visited j) :
    visited <:+ js.foldl walk visited := by
  induction js generalizing visited with
  | nil => exact List.suffix_refl visited
  | cons j js ih => exact (hwalk visited j).trans ih

/-- What has been visited stays so. -/
theorem suffix_descend (owned : Nat → List Nat) (levels : Nat) (visited : List Nat) (i : Nat) :
    visited <:+ descend owned levels visited i := by
  induction levels generalizing visited i with
  | zero => exact List.suffix_refl visited
  | succ levels ih =>
    rw [descend]
    split
    · exact List.suffix_refl visited
    · exact (List.suffix_cons i visited).trans (suffix_foldl ih)

/-- A walk that visits some nodes one after the other, each as it should, visits all of them. -/
theorem explores_foldl
    {walk : List Nat → Nat → List Nat}
    (hwalk : ∀ visited, Passed size visited → size ≤ levels + visited.length → ∀ j < size,
      Explores owned (fun _ => True) [j] visited (walk visited j) ∧ Passed size (walk visited j) ∧
        visited <:+ walk visited j)
    (hpassed : Passed size visited)
    (hlevels : size ≤ levels + visited.length)
    (hjs : ∀ j ∈ js, j < size) :
    Explores owned (fun _ => True) js visited (js.foldl walk visited) ∧
      Passed size (js.foldl walk visited) := by
  induction js generalizing visited with
  | nil => exact ⟨.refl_of_mem (by simp), hpassed⟩
  | cons j js ih =>
    obtain ⟨hfirst, hmiddle, hsuffix⟩ :=
      hwalk visited hpassed hlevels j (hjs j List.mem_cons_self)
    have hlength := hsuffix.length_le
    obtain ⟨hrest, hafter⟩ :=
      ih hmiddle (by omega) (fun k hk => hjs k (List.mem_cons_of_mem j hk))
    exact ⟨hfirst.cons hrest, hafter⟩

/-- A walk down explores its start and all below it. -/
theorem explores_descend
    (hlt : ∀ p c, Owned owned p c → c < size)
    (hpassed : Passed size visited)
    (hlevels : size ≤ levels + visited.length)
    (hi : i < size) :
    Explores owned (fun _ => True) [i] visited (descend owned levels visited i) ∧
      Passed size (descend owned levels visited i) := by
  induction levels generalizing visited i with
  | zero =>
    have hmem := hpassed.mem_of_size_le (by omega) hi
    exact ⟨.refl_of_mem (by simpa using hmem), hpassed⟩
  | succ levels ih =>
    rw [descend]
    split
    · next hseen =>
      exact ⟨.refl_of_mem (by simpa using hseen), hpassed⟩
    · next hseen =>
      have hnew : i ∉ visited := fun hmem => hseen (List.contains_iff_mem.mpr hmem)
      have hwalk : ∀ visited, Passed size visited → size ≤ levels + visited.length → ∀ j < size,
          Explores owned (fun _ => True) [j] visited (descend owned levels visited j) ∧
            Passed size (descend owned levels visited j) ∧
              visited <:+ descend owned levels visited j := by
        intro visited hpassed hlevels j hj
        obtain ⟨hexplores, hafter⟩ := ih hpassed hlevels hj
        exact ⟨hexplores, hafter, suffix_descend owned levels visited j⟩
      obtain ⟨hchildren, hafter⟩ := explores_foldl hwalk (hpassed.cons hi hnew)
        (by rw [List.length_cons]; omega) (hlt i)
      exact ⟨hchildren.of_owned (fun _ _ => trivial), hafter⟩

/-- A walk down that starts afresh comes to exactly what is below its start. -/
theorem mem_descend_iff
    (hlt : ∀ p c, Owned owned p c → c < size)
    (hi : i < size) :
    x ∈ descend owned size [] i ↔ ReflTransGen (Owned owned) i x := by
  obtain ⟨hexplores, -⟩ := explores_descend hlt (⟨List.nodup_nil, by simp⟩ : Passed size [])
    (Nat.le_add_right size 0) hi
  constructor
  · intro hx
    obtain hnone | ⟨j, hj, hjx⟩ := hexplores.below x hx
    · exact absurd hnone List.not_mem_nil
    · rwa [List.mem_singleton.mp hj] at hjx
  · intro hx
    apply mem_of_below _ (hexplores.starts_mem i (by simp)) hx
    intro y hy c hc
    exact (hexplores.closed y hy List.not_mem_nil c hc).1

theorem eq_of_mem_descend_of_owned_eq_nil
    (hnone : owned i = [])
    (hx : x ∈ descend owned levels [] i) :
    x = i := by
  cases levels with
  | zero => simp [descend] at hx
  | succ levels => simpa [descend, hnone] using hx

end Down

/-! ## First visits -/

theorem mem_unvisited {js : List Nat} : x ∈ unvisited visited js ↔ x ∈ js ∧ x ∉ visited := by
  induction js generalizing visited with
  | nil => simp [unvisited]
  | cons j js ih =>
    rw [unvisited]
    by_cases hj : j ∈ visited
    · rw [if_pos (List.contains_iff_mem.mpr hj), ih, List.mem_cons]
      constructor
      · rintro ⟨hx, hnew⟩
        exact ⟨.inr hx, hnew⟩
      · rintro ⟨rfl | hx, hnew⟩
        · exact absurd hj hnew
        · exact ⟨hx, hnew⟩
    · rw [if_neg (fun hmem => hj (List.contains_iff_mem.mp hmem)), List.mem_cons, ih,
        List.mem_cons, List.mem_cons]
      by_cases hxj : x = j
      · simp [hxj, hj]
      · simp [hxj]

theorem nodup_unvisited (visited js : List Nat) : (unvisited visited js).Nodup := by
  induction js generalizing visited with
  | nil => simp [unvisited]
  | cons j js ih =>
    rw [unvisited]
    split
    · exact ih visited
    · refine List.nodup_cons.mpr ⟨?_, ih (j :: visited)⟩
      intro hj
      exact (mem_unvisited.mp hj).2 List.mem_cons_self

namespace Lineage

variable {g : Lineage}

theorem owned_successors (g : Lineage) : Owned (g.successors · .owns) = g.Owns := by
  funext p c
  exact propext mem_successors

theorem not_owns_zero (hg : g.isLinked = true) (p : Nat) : ¬g.Owns p 0 := by
  intro h
  exact ((owns_iff hg).mp h).1 rfl

/-- The ancestors of a node are all that own it, directly or not, without the cluster. -/
theorem mem_ancestors
    (hg : g.isLinked = true)
    (hxi : x ≠ i) :
    x ∈ g.ancestors i ↔ x ≠ 0 ∧ TransGen g.Owns x i := by
  have hstep : (fun p c => g.parent? c = some p) = g.Owns := by
    funext p c
    exact propext (parent?_eq_some_iff hg)
  rw [ancestors, ← hstep]
  constructor
  · exact transGen_of_mem_climb
  · rintro ⟨hx, h⟩
    have hi : i < g.size := by
      obtain ⟨p, -, hp⟩ := TransGen.tail'_iff.mp h
      exact ((parent?_eq_some_iff hg).mp hp).lt_size hg
    have hroot : g.parent? 0 = none := by
      rw [Option.eq_none_iff_forall_ne_some]
      intro p hp
      exact not_owns_zero hg p ((parent?_eq_some_iff hg).mp hp)
    refine (mem_climb_of_transGen ?_ hroot hi hx h).resolve_left hxi
    intro c p hp
    exact ((parent?_eq_some_iff hg).mp hp).source_lt_size hg

/-- The descendants of a node are, but for itself, all that it owns, directly or not. -/
theorem mem_descendants
    (hg : g.isLinked = true)
    (hxi : x ≠ i) :
    x ∈ g.descendants i ↔ TransGen g.Owns i x := by
  rw [descendants, List.mem_reverse]
  by_cases hi : i < g.size
  · have hlt : ∀ p c, Owned (g.successors · .owns) p c → c < g.size := by
      rw [owned_successors]
      intro p c hc
      exact hc.lt_size hg
    rw [mem_descend_iff hlt hi, owned_successors, reflTransGen_iff_eq_or_transGen,
      or_iff_right hxi]
  · have hnone : ∀ c, ¬g.Owns i c := fun c hc => hi (hc.source_lt_size hg)
    have hempty : g.successors i .owns = [] := by
      rw [List.eq_nil_iff_forall_not_mem]
      intro c hc
      exact hnone c (mem_successors.mp hc)
    constructor
    · intro hx
      exact absurd (eq_of_mem_descend_of_owned_eq_nil hempty hx) hxi
    · intro hx
      obtain ⟨c, hc, -⟩ := TransGen.head'_iff.mp hx
      exact absurd hc (hnone c)

end Lineage

end ClusterLineage
