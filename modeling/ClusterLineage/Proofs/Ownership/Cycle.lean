import Mathlib.Data.List.Chain
import Mathlib.Data.List.Nodup
import Mathlib.Logic.Relation

/-!
# Cycles of ownership

Where every node has at most one owner, a cycle can only be entered from itself, so whatever leads
down to a node of a cycle lies on it.
-/

namespace ClusterLineage

/-- A node is among its own owners. -/
def OnCycle {α : Type} (owns : α → α → Prop) (i : α) : Prop :=
  Relation.TransGen owns i i

/-- Distinct nodes in a row, each owned by the one before it and the first by the last. -/
structure IsCycle {α : Type} (owns : α → α → Prop) (cycle : List α) : Prop where
  nodup : cycle.Nodup
  chain : cycle.IsChain owns
  closes : ∃ s t, cycle.head? = some s ∧ cycle.getLast? = some t ∧ owns t s

variable {α β : Type} {owns : α → α → Prop} {i j s : α} {cycle : List α}

/-- A node that leads down to a cycle lies on it. -/
theorem OnCycle.of_below
    (hparent : ∀ p q c, owns p c → owns q c → p = q)
    (hbelow : Relation.ReflTransGen owns i j)
    (hj : OnCycle owns j) :
    OnCycle owns i := by
  induction hbelow using Relation.ReflTransGen.head_induction_on with
  | refl => exact hj
  | head hstep _ ih =>
    obtain ⟨q, hq, hqc⟩ := Relation.TransGen.tail'_iff.mp ih
    rw [hparent _ _ _ hstep hqc]
    exact Relation.TransGen.head' hqc hq

theorem IsCycle.onCycle
    (h : IsCycle owns cycle)
    (hhead : cycle.head? = some s) :
    OnCycle owns s := by
  obtain ⟨s', t, hs', ht, hclose⟩ := h.closes
  obtain rfl : s' = s := Option.some.inj (hs'.symm.trans hhead)
  obtain ⟨rest, rfl⟩ := List.head?_eq_some_iff.mp hhead
  have hlast : (s' :: rest).getLast (List.cons_ne_nil _ _) = t :=
    List.getLast_of_getLast?_eq_some ht
  have hdown := List.relationReflTransGen_of_exists_isChain_cons rest h.chain hlast
  exact Relation.TransGen.tail' hdown hclose

/-- Every node of a cycle has an owner. -/
theorem IsCycle.exists_owner
    (h : IsCycle owns cycle)
    (hi : i ∈ cycle) :
    ∃ p, owns p i := by
  obtain ⟨before, after, rfl⟩ := List.append_of_mem hi
  rcases List.eq_nil_or_concat before with rfl | ⟨before, p, rfl⟩
  · obtain ⟨s, t, hs, -, hclose⟩ := h.closes
    obtain rfl : i = s := Option.some.inj hs
    exact ⟨t, hclose⟩
  · have hchain := h.chain
    rw [List.concat_eq_append, List.append_assoc] at hchain
    exact ⟨p, (List.isChain_append_cons_cons.mp hchain).2.1⟩

/-- A cycle under other names is a cycle, as long as no two nodes get the same name. -/
theorem IsCycle.map
    {owns' : β → β → Prop}
    (h : IsCycle owns cycle)
    (f : α → β)
    (hinj : ∀ a ∈ cycle, ∀ b ∈ cycle, f a = f b → a = b)
    (howns : ∀ a b, owns a b → owns' (f a) (f b)) :
    IsCycle owns' (cycle.map f) where
  nodup := List.Nodup.map_on hinj h.nodup
  chain := by
    rw [List.isChain_map]
    exact h.chain.imp howns
  closes := by
    obtain ⟨s, t, hs, ht, hclose⟩ := h.closes
    exact ⟨f s, f t, by simp [hs], by simp [ht], howns t s hclose⟩

end ClusterLineage
