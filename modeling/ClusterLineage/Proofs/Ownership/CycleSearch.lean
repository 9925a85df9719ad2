import ClusterLineage.Lineage.Ownership
import ClusterLineage.Proofs.Ownership.Cycle
import Mathlib.Data.Finset.Card

/-!
# The search for a cycle

A depth-first search over nodes with at most one owner each.  Two observations carry the proof.
Since a node has one owner, the only node of the path that its end can own is the start of the
path, so a cycle that closes is the whole path.  And a search that ends without a cycle has
explored everything below its start, and found nothing there that owns the start again.  So the
first start that lies on a cycle is where a cycle is found, and it is the first node on any cycle
at all.
-/

namespace ClusterLineage

/-- One node owns another. -/
def Owned (owned : Nat → List Nat) (p c : Nat) : Prop :=
  c ∈ owned p

/-- A way down from a start, given from its end. -/
structure IsPath (owned : Nat → List Nat) (s : Nat) (path : List Nat) : Prop where
  nodup : path.Nodup
  chain : path.IsChain fun c p => Owned owned p c
  start : path.getLast? = some s

section Search

variable {owned : Nat → List Nat} {size s i j : Nat} {path above : List Nat} {allowed : Nat → Prop}

theorem IsPath.single (owned : Nat → List Nat) (s : Nat) : IsPath owned s [s] where
  nodup := by simp
  chain := by simp
  start := rfl

theorem IsPath.start_mem (h : IsPath owned s path) : s ∈ path :=
  List.mem_of_getLast? h.start

theorem IsPath.cons
    (h : IsPath owned s (i :: above))
    (hj : Owned owned i j)
    (hnew : j ∉ i :: above) :
    IsPath owned s (j :: i :: above) where
  nodup := List.nodup_cons.mpr ⟨hnew, h.nodup⟩
  chain := List.isChain_cons_cons.mpr ⟨hj, h.chain⟩
  start := by
    rw [List.getLast?_cons_cons]
    exact h.start

/-- The end of a path owns no node of the path but its start. -/
theorem IsPath.eq_start
    (hparent : ∀ p q c, Owned owned p c → Owned owned q c → p = q)
    (h : IsPath owned s (i :: above))
    (hj : Owned owned i j)
    (hmem : j ∈ i :: above) :
    j = s := by
  obtain ⟨before, after, hsplit⟩ := List.append_of_mem hmem
  cases after with
  | nil =>
    have hlast := h.start
    rw [hsplit, List.getLast?_concat] at hlast
    exact Option.some.inj hlast
  | cons p after =>
    have hchain := h.chain
    rw [hsplit] at hchain
    have hpj : Owned owned p j := (List.isChain_append_cons_cons.mp hchain).2.1
    obtain rfl : p = i := hparent p i j hpj hj
    have hnodup := h.nodup
    rw [hsplit] at hnodup
    -- the end of the path stands before `j` and after it
    cases before with
    | nil =>
      obtain ⟨rfl, -⟩ := List.cons.inj hsplit
      simp at hnodup
    | cons b before =>
      obtain ⟨rfl, -⟩ := List.cons.inj hsplit
      simp at hnodup

/-- A path whose end owns its start is a cycle, the cycle that closes there. -/
theorem IsPath.isCycle
    (h : IsPath owned s (i :: above))
    (hs : Owned owned i s) :
    closedCycle (i :: above) s = (i :: above).reverse ∧
      IsCycle (Owned owned) (i :: above).reverse := by
  obtain ⟨down, hdown⟩ : ∃ down, i :: above = down ++ [s] :=
    List.getLast?_eq_some_iff.mp h.start
  have hfresh : s ∉ down := by
    have hnodup := h.nodup
    rw [hdown, List.nodup_append] at hnodup
    intro hs'
    exact hnodup.2.2 s hs' s (by simp) rfl
  constructor
  · have htake : (down ++ [s]).takeWhile (· != s) = down := by
      rw [List.takeWhile_append_of_pos]
      · simp
      · intro c hc
        simp only [bne_iff_ne, ne_eq]
        rintro rfl
        exact hfresh hc
    rw [closedCycle, hdown, htake, List.reverse_append]
    rfl
  · refine ⟨List.nodup_reverse.mpr h.nodup, ?_, s, i, ?_, ?_, hs⟩
    · rw [List.isChain_reverse]
      exact h.chain
    · rw [List.head?_reverse, h.start]
    · simp

theorem cases_of_searchNext_error
    {search : Nat → List Nat → Except (List Nat) (List Nat)} {explored cycle : List Nat}
    (h : searchNext search path explored j = .error cycle) :
    (j ∈ path ∧ cycle = closedCycle path j) ∨ (j ∉ path ∧ search j explored = .error cycle) := by
  unfold searchNext at h
  split at h
  · next hmem =>
    cases h
    exact .inl ⟨List.contains_iff_mem.mp hmem, rfl⟩
  · next hmem =>
    have hj : j ∉ path := fun hj => hmem (List.contains_iff_mem.mpr hj)
    split at h
    · cases h
    · exact .inr ⟨hj, h⟩

theorem cases_of_searchNext_ok
    {search : Nat → List Nat → Except (List Nat) (List Nat)} {before after : List Nat}
    (h : searchNext search path before j = .ok after) :
    j ∉ path ∧ (j ∈ before ∧ after = before ∨ j ∉ before ∧ search j before = .ok after) := by
  unfold searchNext at h
  split at h
  · cases h
  · next hmem =>
    refine ⟨fun hj => hmem (List.contains_iff_mem.mpr hj), ?_⟩
    split at h
    · next hseen =>
      cases h
      exact .inl ⟨List.contains_iff_mem.mp hseen, rfl⟩
    · next hseen =>
      exact .inr ⟨fun hj => hseen (List.contains_iff_mem.mpr hj), h⟩

/-- A search that goes through some nodes and fails, fails at one of them. -/
theorem exists_error_of_foldlM
    {search : Nat → List Nat → Except (List Nat) (List Nat)} {js explored cycle : List Nat}
    (h : js.foldlM (searchNext search path) explored = .error cycle) :
    ∃ j ∈ js, (j ∈ path ∧ cycle = closedCycle path j) ∨
      (j ∉ path ∧ ∃ before, search j before = .error cycle) := by
  induction js generalizing explored with
  | nil => cases h
  | cons j js ih =>
    rw [List.foldlM_cons] at h
    cases hstep : searchNext search path explored j with
    | error cycle' =>
      rw [hstep] at h
      obtain rfl : cycle' = cycle := by cases h; rfl
      refine ⟨j, List.mem_cons_self, ?_⟩
      rcases cases_of_searchNext_error hstep with hclosed | ⟨hj, herror⟩
      · exact .inl hclosed
      · exact .inr ⟨hj, explored, herror⟩
    | ok explored' =>
      rw [hstep] at h
      obtain ⟨j', hj', hcases⟩ := ih h
      exact ⟨j', List.mem_cons_of_mem j hj', hcases⟩

/-- A cycle that the search fails with runs from the start of the path all around. -/
theorem isCycle_of_searchBelow_error
    (hparent : ∀ p q c, Owned owned p c → Owned owned q c → p = q)
    {depth : Nat} {explored cycle : List Nat}
    (hpath : IsPath owned s (i :: above))
    (h : searchBelow owned depth above i explored = .error cycle) :
    IsCycle (Owned owned) cycle ∧ cycle.head? = some s := by
  induction depth generalizing i above explored with
  | zero => cases h
  | succ depth ih =>
    rw [searchBelow] at h
    obtain ⟨j, hj, ⟨hmem, rfl⟩ | ⟨hnew, before, hbefore⟩⟩ := exists_error_of_foldlM h
    · obtain rfl := hpath.eq_start hparent hj hmem
      obtain ⟨hclosed, hcycle⟩ := hpath.isCycle hj
      rw [hclosed]
      exact ⟨hcycle, by rw [List.head?_reverse, hpath.start]⟩
    · exact ih (hpath.cons hj hnew) hbefore

/-- What a search leaves behind when it has come to some nodes: it keeps what was explored, adds
nodes below those only, and of all that it adds it has seen what they own, every node of it an
allowed one. -/
structure Explores (owned : Nat → List Nat) (allowed : Nat → Prop)
    (starts before after : List Nat) : Prop where
  keeps : before ⊆ after
  starts_mem : ∀ j ∈ starts, j ∈ after
  below : ∀ x ∈ after, x ∈ before ∨ ∃ j ∈ starts, Relation.ReflTransGen (Owned owned) j x
  closed : ∀ x ∈ after, x ∉ before → ∀ c, Owned owned x c → c ∈ after ∧ allowed c

theorem Explores.refl_of_mem
    {js explored : List Nat}
    (hstarts : ∀ j ∈ js, j ∈ explored) :
    Explores owned allowed js explored explored where
  keeps := fun _ hx => hx
  starts_mem := hstarts
  below := fun _ hx => .inl hx
  closed := fun _ hx hnew => absurd hx hnew

theorem Explores.cons
    {js before middle after : List Nat}
    (hfirst : Explores owned allowed [j] before middle)
    (hrest : Explores owned allowed js middle after) :
    Explores owned allowed (j :: js) before after where
  keeps := fun _ hx => hrest.keeps (hfirst.keeps hx)
  starts_mem := by
    intro k hk
    rcases List.mem_cons.mp hk with rfl | hk
    · exact hrest.keeps (hfirst.starts_mem k (by simp))
    · exact hrest.starts_mem k hk
  below := by
    intro x hx
    rcases hrest.below x hx with hx | ⟨k, hk, hkx⟩
    · rcases hfirst.below x hx with hx | ⟨k, hk, hkx⟩
      · exact .inl hx
      · exact .inr ⟨k, List.mem_cons.mpr (.inl (List.mem_singleton.mp hk)), hkx⟩
    · exact .inr ⟨k, List.mem_cons_of_mem j hk, hkx⟩
  closed := by
    intro x hx hnew c hc
    by_cases hmiddle : x ∈ middle
    · obtain ⟨hcmem, hcs⟩ := hfirst.closed x hmiddle hnew c hc
      exact ⟨hrest.keeps hcmem, hcs⟩
    · exact hrest.closed x hx hmiddle c hc

/-- A node is explored once all that it owns is. -/
theorem Explores.of_owned
    {before after : List Nat}
    (hchildren : Explores owned allowed (owned i) (i :: before) after)
    (hallowed : ∀ c ∈ owned i, allowed c) :
    Explores owned allowed [i] before after where
  keeps := fun _ hx => hchildren.keeps (List.mem_cons_of_mem i hx)
  starts_mem := by
    intro k hk
    rw [List.mem_singleton.mp hk]
    exact hchildren.keeps List.mem_cons_self
  below := by
    intro x hx
    rcases hchildren.below x hx with hx | ⟨j, hj, hjx⟩
    · rcases List.mem_cons.mp hx with rfl | hx
      · exact .inr ⟨x, by simp, .refl⟩
      · exact .inl hx
    · exact .inr ⟨i, by simp, .head hj hjx⟩
  closed := by
    intro x hx hxnew c hc
    by_cases hxi : x = i
    · subst hxi
      exact ⟨hchildren.starts_mem c hc, hallowed c hc⟩
    · exact hchildren.closed x hx (by simp [hxi, hxnew]) c hc

/-- A search that goes through some nodes without a cycle explores all of them, and none of them is
on the path. -/
theorem explores_of_foldlM_ok
    {search : Nat → List Nat → Except (List Nat) (List Nat)} {js before after : List Nat}
    (hsearch : ∀ j ∈ js, j ∉ path → ∀ before after, j ∉ before →
      search j before = .ok after → Explores owned allowed [j] before after)
    (h : js.foldlM (searchNext search path) before = .ok after) :
    Explores owned allowed js before after ∧ ∀ j ∈ js, j ∉ path := by
  induction js generalizing before with
  | nil =>
    obtain rfl : before = after := by cases h; rfl
    exact ⟨.refl_of_mem (by simp), by simp⟩
  | cons j js ih =>
    rw [List.foldlM_cons] at h
    cases hstep : searchNext search path before j with
    | error cycle => rw [hstep] at h; cases h
    | ok middle =>
      rw [hstep] at h
      obtain ⟨hrest, hnone⟩ :=
        ih (fun k hk => hsearch k (List.mem_cons_of_mem j hk)) h
      obtain ⟨hj, hcases⟩ := cases_of_searchNext_ok hstep
      have hfirst : Explores owned allowed [j] before middle := by
        rcases hcases with ⟨hseen, rfl⟩ | ⟨hnew, hok⟩
        · exact .refl_of_mem (by simpa using hseen)
        · exact hsearch j List.mem_cons_self hj before middle hnew hok
      refine ⟨hfirst.cons hrest, ?_⟩
      intro k hk
      rcases List.mem_cons.mp hk with rfl | hk
      · exact hj
      · exact hnone k hk

/-- Distinct numbers below a bound are no more than the bound. -/
theorem length_le_of_nodup_of_lt
    {l : List Nat}
    (hnodup : l.Nodup)
    (hlt : ∀ x ∈ l, x < size) :
    l.length ≤ size := by
  have hsubset : l.toFinset ⊆ Finset.range size := by
    intro x hx
    exact Finset.mem_range.mpr (hlt x (List.mem_toFinset.mp hx))
  have hcard := Finset.card_le_card hsubset
  rwa [List.toFinset_card_of_nodup hnodup, Finset.card_range] at hcard

/-- A search without a cycle explores its start and all below it.  No path is longer than there are
nodes, so the depth is enough. -/
theorem explores_of_searchBelow_ok
    (hlt : ∀ p c, Owned owned p c → c < size)
    {depth : Nat} {before after : List Nat}
    (hpath : IsPath owned s (i :: above))
    (hbound : ∀ x ∈ i :: above, x < size)
    (hdepth : depth + above.length = size)
    (hnew : i ∉ before)
    (h : searchBelow owned depth above i before = .ok after) :
    Explores owned (· ≠ s) [i] before after := by
  induction depth generalizing i above before after with
  | zero =>
    have hlength := length_le_of_nodup_of_lt hpath.nodup hbound
    simp only [List.length_cons] at hlength
    omega
  | succ depth ih =>
    rw [searchBelow] at h
    have hbelow : ∀ j ∈ owned i, j ∉ i :: above → ∀ before after, j ∉ before →
        searchBelow owned depth (i :: above) j before = .ok after →
        Explores owned (· ≠ s) [j] before after := by
      intro j hj hjpath before after hjnew hok
      apply ih (hpath.cons hj hjpath) _ _ hjnew hok
      · intro x hx
        rcases List.mem_cons.mp hx with rfl | hx
        · exact hlt i x hj
        · exact hbound x hx
      · simp only [List.length_cons]
        omega
    obtain ⟨hchildren, hfree⟩ := explores_of_foldlM_ok hbelow h
    apply hchildren.of_owned
    rintro c hc rfl
    exact hfree c hc hpath.start_mem

/-- What is known when the first so many starts have been searched without a cycle. -/
structure Searched (owned : Nat → List Nat) (starts : Nat) (explored : List Nat) : Prop where
  starts_mem : ∀ i < starts, i ∈ explored
  below : ∀ x ∈ explored, ∃ i < starts, Relation.ReflTransGen (Owned owned) i x
  closed : ∀ x ∈ explored, ∀ c, Owned owned x c → c ∈ explored
  clear : ∀ i < starts, ¬OnCycle (Owned owned) i

theorem mem_of_below
    {explored : List Nat}
    (hclosed : ∀ x ∈ explored, ∀ c, Owned owned x c → c ∈ explored)
    (hi : i ∈ explored)
    (hbelow : Relation.ReflTransGen (Owned owned) i j) :
    j ∈ explored := by
  induction hbelow with
  | refl => exact hi
  | tail _ hstep ih => exact hclosed _ ih _ hstep

/-- A start that an earlier search has come upon lies on no cycle. -/
theorem Searched.succ_of_mem
    (hparent : ∀ p q c, Owned owned p c → Owned owned q c → p = q)
    {starts : Nat} {explored : List Nat}
    (h : Searched owned starts explored)
    (hmem : starts ∈ explored) :
    Searched owned (starts + 1) explored where
  starts_mem := by
    intro i hi
    rcases Nat.lt_succ_iff_lt_or_eq.mp hi with hi | rfl
    · exact h.starts_mem i hi
    · exact hmem
  below := by
    intro x hx
    obtain ⟨i, hi, hix⟩ := h.below x hx
    exact ⟨i, by omega, hix⟩
  closed := h.closed
  clear := by
    intro i hi hcycle
    rcases Nat.lt_succ_iff_lt_or_eq.mp hi with hi | rfl
    · exact h.clear i hi hcycle
    · obtain ⟨k, hk, hki⟩ := h.below i hmem
      exact h.clear k hk (hcycle.of_below hparent hki)

/-- A new start whose search ends without a cycle lies on none.  All of a cycle through it would be
new, and the search would have met the node that owns the start. -/
theorem Searched.succ_of_explores
    {starts : Nat} {before after : List Nat}
    (h : Searched owned starts before)
    (hnew : starts ∉ before)
    (hexplores : Explores owned (· ≠ starts) [starts] before after) :
    Searched owned (starts + 1) after := by
  have hstart : starts ∈ after := hexplores.starts_mem starts (by simp)
  have hclosed : ∀ x ∈ after, ∀ c, Owned owned x c → c ∈ after := by
    intro x hx c hc
    by_cases hold : x ∈ before
    · exact hexplores.keeps (h.closed x hold c hc)
    · exact (hexplores.closed x hx hold c hc).1
  refine ⟨?_, ?_, hclosed, ?_⟩
  · intro i hi
    rcases Nat.lt_succ_iff_lt_or_eq.mp hi with hi | rfl
    · exact hexplores.keeps (h.starts_mem i hi)
    · exact hstart
  · intro x hx
    rcases hexplores.below x hx with hx | ⟨k, hk, hkx⟩
    · obtain ⟨i, hi, hix⟩ := h.below x hx
      exact ⟨i, by omega, hix⟩
    · obtain rfl := List.mem_singleton.mp hk
      exact ⟨k, by omega, hkx⟩
  · intro i hi hcycle
    rcases Nat.lt_succ_iff_lt_or_eq.mp hi with hi | rfl
    · exact h.clear i hi hcycle
    · obtain ⟨t, hdown, hclose⟩ := Relation.TransGen.tail'_iff.mp hcycle
      have ht : t ∈ after := mem_of_below hclosed hstart hdown
      have htnew : t ∉ before := fun ht => hnew (h.closed t ht i hclose)
      exact (hexplores.closed t ht htnew i hclose).2 rfl

/-- The search for a cycle over the first so many starts. -/
def searchStarts (owned : Nat → List Nat) (size starts : Nat) : Except (List Nat) (List Nat) :=
  (List.range starts).foldlM (searchNext (searchBelow owned size []) []) []

theorem firstCycle?_eq (owned : Nat → List Nat) (size : Nat) :
    firstCycle? owned size =
      match searchStarts owned size size with
      | .error cycle => some cycle
      | .ok _ => none :=
  rfl

theorem searchStarts_succ (owned : Nat → List Nat) (size starts : Nat) :
    searchStarts owned size (starts + 1) =
      searchStarts owned size starts >>= fun explored =>
        if explored.contains starts then .ok explored
        else searchBelow owned size [] starts explored := by
  rw [searchStarts, List.range_succ, List.foldlM_append, searchStarts]
  congr
  funext explored
  rw [List.foldlM_cons, searchNext]
  simp only [List.contains_nil, Bool.false_eq_true, if_false, List.foldlM_nil, bind_pure]

theorem searched_of_searchStarts_ok
    (hparent : ∀ p q c, Owned owned p c → Owned owned q c → p = q)
    (hlt : ∀ p c, Owned owned p c → c < size)
    {starts : Nat} {explored : List Nat}
    (hsize : starts ≤ size)
    (h : searchStarts owned size starts = .ok explored) :
    Searched owned starts explored := by
  induction starts generalizing explored with
  | zero =>
    obtain rfl : [] = explored := by cases h; rfl
    exact ⟨by simp, by simp, by simp, by simp⟩
  | succ starts ih =>
    rw [searchStarts_succ] at h
    cases hbefore : searchStarts owned size starts with
    | error cycle => rw [hbefore] at h; cases h
    | ok before =>
      rw [hbefore] at h
      have hsearched := ih (by omega) hbefore
      change (if before.contains starts then Except.ok before
        else searchBelow owned size [] starts before) = _ at h
      split at h
      · next hseen =>
        cases h
        exact hsearched.succ_of_mem hparent (List.contains_iff_mem.mp hseen)
      · next hseen =>
        have hnew : starts ∉ before := fun hmem => hseen (List.contains_iff_mem.mpr hmem)
        have hexplores : Explores owned (· ≠ starts) [starts] before explored := by
          apply explores_of_searchBelow_ok hlt (IsPath.single owned starts) _ _ hnew h
          · intro x hx
            rw [List.mem_singleton.mp hx]
            omega
          · simp
        exact hsearched.succ_of_explores hnew hexplores

theorem isCycle_of_searchStarts_error
    (hparent : ∀ p q c, Owned owned p c → Owned owned q c → p = q)
    (hlt : ∀ p c, Owned owned p c → c < size)
    {starts : Nat} {cycle : List Nat}
    (hsize : starts ≤ size)
    (h : searchStarts owned size starts = .error cycle) :
    IsCycle (Owned owned) cycle ∧
      ∃ s < starts, cycle.head? = some s ∧ ∀ i < s, ¬OnCycle (Owned owned) i := by
  induction starts with
  | zero => cases h
  | succ starts ih =>
    rw [searchStarts_succ] at h
    cases hbefore : searchStarts owned size starts with
    | error cycle' =>
      rw [hbefore] at h
      obtain rfl : cycle' = cycle := by cases h; rfl
      obtain ⟨hcycle, s, hs, hhead, hearliest⟩ := ih (by omega) hbefore
      exact ⟨hcycle, s, by omega, hhead, hearliest⟩
    | ok before =>
      rw [hbefore] at h
      have hsearched := searched_of_searchStarts_ok hparent hlt (by omega) hbefore
      change (if before.contains starts then Except.ok before
        else searchBelow owned size [] starts before) = _ at h
      split at h
      · cases h
      · obtain ⟨hcycle, hhead⟩ :=
          isCycle_of_searchBelow_error hparent (IsPath.single owned starts) h
        exact ⟨hcycle, starts, by omega, hhead, hsearched.clear⟩

/-- The search finds no cycle just if there is none. -/
theorem firstCycle?_eq_none_iff
    (hparent : ∀ p q c, Owned owned p c → Owned owned q c → p = q)
    (hlt : ∀ p c, Owned owned p c → c < size) :
    firstCycle? owned size = none ↔ ∀ i < size, ¬OnCycle (Owned owned) i := by
  rw [firstCycle?_eq]
  cases hsearch : searchStarts owned size size with
  | ok explored =>
    exact ⟨fun _ => (searched_of_searchStarts_ok hparent hlt le_rfl hsearch).clear, fun _ => rfl⟩
  | error cycle =>
    obtain ⟨hcycle, s, hs, hhead, -⟩ :=
      isCycle_of_searchStarts_error hparent hlt le_rfl hsearch
    constructor
    · intro h
      cases h
    · intro hnone
      exact absurd (hcycle.onCycle hhead) (hnone s hs)

/-- What the search finds is a cycle, and it starts at the earliest node that lies on any. -/
theorem isCycle_of_firstCycle?_eq_some
    (hparent : ∀ p q c, Owned owned p c → Owned owned q c → p = q)
    (hlt : ∀ p c, Owned owned p c → c < size)
    {cycle : List Nat}
    (h : firstCycle? owned size = some cycle) :
    IsCycle (Owned owned) cycle ∧
      ∃ s, cycle.head? = some s ∧ OnCycle (Owned owned) s ∧ ∀ i < s, ¬OnCycle (Owned owned) i := by
  rw [firstCycle?_eq] at h
  cases hsearch : searchStarts owned size size with
  | ok explored => rw [hsearch] at h; cases h
  | error cycle' =>
    rw [hsearch] at h
    obtain rfl : cycle' = cycle := Option.some.inj h
    obtain ⟨hcycle, s, -, hhead, hearliest⟩ :=
      isCycle_of_searchStarts_error hparent hlt le_rfl hsearch
    exact ⟨hcycle, s, hhead, hcycle.onCycle hhead, hearliest⟩

end Search

end ClusterLineage
