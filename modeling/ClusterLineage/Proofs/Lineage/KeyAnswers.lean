import ClusterLineage.Proofs.Lineage.Component
import ClusterLineage.Proofs.Lineage.TreeView

/-!
# Answers between keys

Answers name nodes by their keys, and edges can be written between keys as well.  So all that an
answer about a node shows can be read off the edges between keys: what a view lists, what is related
to the node, and what a change to it affects.  Lineages with other numbers can be compared this way.
-/

namespace ClusterLineage.Lineage

open Relation

variable {g : Lineage} {i j : Nat} {a b k : Text} {type : EdgeType}

/-- The node with one key owns the node with another. -/
def KeyOwns (g : Lineage) (a b : Text) : Prop :=
  ⟨a, b, .owns⟩ ∈ g.keyEdges

/-- The node with one key references the node with another. -/
def KeyRefers (g : Lineage) (a b : Text) : Prop :=
  ⟨a, b, .references⟩ ∈ g.keyEdges

/-- One of two resources owns the other, by their keys.  The cluster does not count. -/
def KeyKin (g : Lineage) (a b : Text) : Prop :=
  a ≠ g.root.key ∧ b ≠ g.root.key ∧ (g.KeyOwns a b ∨ g.KeyOwns b a)

theorem mem_keyEdges_iff :
    ⟨a, b, type⟩ ∈ g.keyEdges ↔
      ∃ i j, g.keyAt? i = some a ∧ g.keyAt? j = some b ∧ ⟨i, j, type⟩ ∈ g.edges := by
  rw [keyEdges, List.mem_filterMap]
  constructor
  · intro h
    obtain ⟨⟨i, j, type'⟩, he, hkeys⟩ := h
    obtain ⟨hi, hj, rfl⟩ := keyEdge?_eq_some_iff.mp hkeys
    exact ⟨i, j, hi, hj, he⟩
  · intro h
    obtain ⟨i, j, hi, hj, he⟩ := h
    exact ⟨_, he, keyEdge?_mk hi hj⟩

theorem mem_keyEdges_of_keyAt?
    (hi : g.keyAt? i = some a)
    (hj : g.keyAt? j = some b) :
    ⟨a, b, type⟩ ∈ g.keyEdges ↔ ⟨i, j, type⟩ ∈ g.edges := by
  rw [mem_keyEdges_iff]
  constructor
  · intro h
    obtain ⟨i', j', hi', hj', he⟩ := h
    obtain rfl := keyAt?_inj hi hi'
    obtain rfl := keyAt?_inj hj hj'
    exact he
  · intro he
    exact ⟨i, j, hi, hj, he⟩

theorem keyAt?_ne_root_iff (hi : g.keyAt? i = some a) : a ≠ g.root.key ↔ i ≠ 0 := by
  apply not_congr
  constructor
  · intro ha
    exact keyAt?_inj hi (ha ▸ keyAt?_zero g)
  · intro hi0
    rw [hi0, keyAt?_zero, Option.some.injEq] at hi
    exact hi.symm

/-! ## Paths -/

/-- Steps between numbers and steps between keys lead along the same paths. -/
theorem reflTransGen_iff_of_keyAt?
    {R : Nat → Nat → Prop}
    {K : Text → Text → Prop}
    (hstep : ∀ {i j a b}, g.keyAt? i = some a → g.keyAt? j = some b → (R i j ↔ K a b))
    (hR : ∀ {i j}, R i j → ∃ a, g.keyAt? i = some a)
    (hK : ∀ {a b}, K a b → ∃ i, g.keyAt? i = some a)
    (hi : g.keyAt? i = some a)
    (hj : g.keyAt? j = some b) :
    ReflTransGen R i j ↔ ReflTransGen K a b := by
  constructor
  · intro hpath
    induction hpath generalizing b with
    | refl =>
      obtain rfl := Option.some.inj (hi.symm.trans hj)
      exact .refl
    | tail _ hlast ih =>
      obtain ⟨c, hc⟩ := hR hlast
      exact (ih hc).tail ((hstep hc hj).mp hlast)
  · intro hpath
    induction hpath generalizing j with
    | refl =>
      obtain rfl := keyAt?_inj hi hj
      exact .refl
    | tail _ hlast ih =>
      obtain ⟨m, hm⟩ := hK hlast
      exact (ih hm).tail ((hstep hm hj).mpr hlast)

theorem reflTransGen_owns_iff
    (hg : g.isLinked = true)
    (hi : g.keyAt? i = some a)
    (hj : g.keyAt? j = some b) :
    ReflTransGen g.Owns i j ↔ ReflTransGen g.KeyOwns a b := by
  apply reflTransGen_iff_of_keyAt? _ _ _ hi hj
  · intro i j a b hi hj
    exact (mem_keyEdges_of_keyAt? hi hj).symm
  · intro i j howns
    exact exists_keyAt? (howns.source_lt_size hg)
  · intro a b howns
    obtain ⟨i, j, hi, -, -⟩ := mem_keyEdges_iff.mp howns
    exact ⟨i, hi⟩

theorem sameComponent_iff_of_keyAt?
    (hg : g.isLinked = true)
    (hi : g.keyAt? i = some a)
    (hj : g.keyAt? j = some b) :
    g.SameComponent i j ↔ ReflTransGen g.KeyKin a b := by
  apply reflTransGen_iff_of_keyAt? _ _ _ hi hj
  · intro i j a b hi hj
    simp only [Kin, KeyKin, KeyOwns, Owns, mem_keyEdges_of_keyAt? hi hj,
      mem_keyEdges_of_keyAt? hj hi, keyAt?_ne_root_iff hi, keyAt?_ne_root_iff hj]
  · intro i j hkin
    obtain ⟨-, -, hdown | hup⟩ := hkin
    · exact exists_keyAt? (hdown.source_lt_size hg)
    · exact exists_keyAt? (hup.lt_size hg)
  · intro a b hkin
    obtain ⟨-, -, hdown | hup⟩ := hkin
    · obtain ⟨i, -, hi, -⟩ := mem_keyEdges_iff.mp hdown
      exact ⟨i, hi⟩
    · obtain ⟨-, i, -, hi, -⟩ := mem_keyEdges_iff.mp hup
      exact ⟨i, hi⟩

/-! ## Views -/

theorem parentKey?_eq_some_iff_keyOwns
    (hg : g.isLinked = true)
    (hi : g.keyAt? i = some a) :
    g.parentKey? i = some k ↔ g.KeyOwns k a := by
  rw [parentKey?_eq_some_iff hg]
  constructor
  · intro h
    obtain ⟨p, howns, hp⟩ := h
    exact (mem_keyEdges_of_keyAt? hp hi).mpr howns
  · intro h
    obtain ⟨p, c, hp, hc, howns⟩ := mem_keyEdges_iff.mp h
    obtain rfl := keyAt?_inj hi hc
    exact ⟨p, howns, hp⟩

/-- The sorted keys of the successors of a node are the keys that edges lead to from its key. -/
theorem mem_sortedKeys_successors (hi : g.keyAt? i = some a) :
    k ∈ g.sortedKeys (g.successors i type) ↔ ⟨a, k, type⟩ ∈ g.keyEdges := by
  rw [mem_sortedKeys]
  constructor
  · intro h
    obtain ⟨j, hj, hjk⟩ := h
    exact (mem_keyEdges_of_keyAt? hi hjk).mpr (mem_successors.mp hj)
  · intro h
    obtain ⟨p, j, hp, hjk, he⟩ := mem_keyEdges_iff.mp h
    obtain rfl := keyAt?_inj hi hp
    exact ⟨j, mem_successors.mpr he, hjk⟩

/-! ## Related keys -/

theorem exists_keyAt?_of_reflTransGen
    (hi : g.keyAt? i = some a)
    (hpath : ReflTransGen g.KeyKin a b) :
    ∃ j, g.keyAt? j = some b := by
  obtain rfl | ⟨c, -, -, -, hdown | hup⟩ := hpath.cases_tail
  · exact ⟨i, hi⟩
  · obtain ⟨-, j, -, hj, -⟩ := mem_keyEdges_iff.mp hdown
    exact ⟨j, hj⟩
  · obtain ⟨j, -, hj, -⟩ := mem_keyEdges_iff.mp hup
    exact ⟨j, hj⟩

/-- What is related to a key: its component of ownership and what a reference joins to it. -/
theorem mem_relatedKeys_iff
    (hg : g.isLinked = true)
    (hi : g.keyAt? i = some (Text.lower a))
    (hroot : Text.lower a ≠ g.root.key) :
    k ∈ g.relatedKeys a ↔
      k ≠ g.root.key ∧ (ReflTransGen g.KeyKin (Text.lower a) k ∨
        ∃ b, ReflTransGen g.KeyKin (Text.lower a) b ∧ (g.KeyRefers b k ∨ g.KeyRefers k b)) := by
  have hne : i ≠ 0 := (keyAt?_ne_root_iff hi).mp hroot
  rw [(answersRelated hg hne hi).mem_keys]
  constructor
  · intro h
    obtain ⟨x, hx, hx0, hcase⟩ := h
    refine ⟨(keyAt?_ne_root_iff hx).mpr hx0, ?_⟩
    obtain hcomponent | ⟨y, hcomponent, hjoined⟩ := hcase
    · exact .inl ((sameComponent_iff_of_keyAt? hg hi hx).mp hcomponent)
    · obtain ⟨b, hb⟩ :=
        exists_keyAt? (lt_size_of_sameComponent hg (lt_size_of_keyAt? hi) hcomponent)
      refine .inr ⟨b, (sameComponent_iff_of_keyAt? hg hi hb).mp hcomponent, ?_⟩
      exact hjoined.imp (mem_keyEdges_of_keyAt? hb hx).mpr (mem_keyEdges_of_keyAt? hx hb).mpr
  · intro h
    obtain ⟨hk, hcomponent | ⟨b, hcomponent, hjoined⟩⟩ := h
    · obtain ⟨x, hx⟩ := exists_keyAt?_of_reflTransGen hi hcomponent
      exact ⟨x, hx, (keyAt?_ne_root_iff hx).mp hk,
        .inl ((sameComponent_iff_of_keyAt? hg hi hx).mpr hcomponent)⟩
    · obtain ⟨y, hy⟩ := exists_keyAt?_of_reflTransGen hi hcomponent
      have hx : ∃ x, g.keyAt? x = some k ∧ g.Referenced y x := by
        obtain hthere | hback := hjoined
        · obtain ⟨y', x, hy', hx, he⟩ := mem_keyEdges_iff.mp hthere
          obtain rfl := keyAt?_inj hy hy'
          exact ⟨x, hx, .inl he⟩
        · obtain ⟨x, y', hx, hy', he⟩ := mem_keyEdges_iff.mp hback
          obtain rfl := keyAt?_inj hy hy'
          exact ⟨x, hx, .inr he⟩
      obtain ⟨x, hx, hjoined⟩ := hx
      exact ⟨x, hx, (keyAt?_ne_root_iff hx).mp hk,
        .inr ⟨y, (sameComponent_iff_of_keyAt? hg hi hy).mpr hcomponent, hjoined⟩⟩

/-! ## Affected keys -/

/-- A resource references another one, and so a change to that one affects it. -/
def KeyAffected (g : Lineage) (a k : Text) : Prop :=
  g.KeyRefers k a ∧ k ≠ a ∧ k ≠ g.root.key

/-- A change to a resource affects another one only through what owns it. -/
def KeyOwnedByAffected (g : Lineage) (a k : Text) : Prop :=
  k ≠ a ∧ k ≠ g.root.key ∧ ¬g.KeyAffected a k ∧
    ∃ b, g.KeyAffected a b ∧ ReflTransGen g.KeyOwns b k

theorem keyAt?_ne_iff
    (hi : g.keyAt? i = some a)
    (hj : g.keyAt? j = some b) :
    a ≠ b ↔ i ≠ j := by
  apply not_congr
  constructor
  · intro hab
    exact keyAt?_inj hi (hab ▸ hj)
  · intro hij
    exact Option.some.inj (hi.symm.trans (hij ▸ hj))

theorem mem_referrers_iff_of_keyAt?
    (hi : g.keyAt? i = some a)
    (hj : g.keyAt? j = some k) :
    j ∈ g.referrers i ↔ g.KeyAffected a k := by
  rw [mem_referrers, KeyAffected, KeyRefers, mem_keyEdges_of_keyAt? hj hi, keyAt?_ne_iff hj hi,
    keyAt?_ne_root_iff hj]

theorem mem_filterMap_referrers (hi : g.keyAt? i = some a) :
    k ∈ (g.referrers i).filterMap g.keyAt? ↔ g.KeyAffected a k := by
  rw [List.mem_filterMap]
  constructor
  · intro h
    obtain ⟨j, hj, hjk⟩ := h
    exact (mem_referrers_iff_of_keyAt? hi hjk).mp hj
  · intro h
    obtain ⟨j, -, hj, -, -⟩ := mem_keyEdges_iff.mp h.1
    exact ⟨j, (mem_referrers_iff_of_keyAt? hi hj).mpr h, hj⟩

theorem mem_ownedBelow_iff_of_keyAt?
    (hg : g.isLinked = true)
    (hi : g.keyAt? i = some a)
    (hj : g.keyAt? j = some k) :
    j ∈ g.ownedBelow i (g.referrers i) ↔ g.KeyOwnedByAffected a k := by
  rw [mem_ownedBelow hg, KeyOwnedByAffected, ← keyAt?_ne_iff hj hi, ← keyAt?_ne_root_iff hj,
    mem_referrers_iff_of_keyAt? hi hj]
  constructor
  · intro h
    obtain ⟨-, hne, hroot, hnew, y, hy, hpath⟩ := h
    obtain ⟨b, hb⟩ := exists_keyAt? (ends_lt_size_of_mem_edges hg (mem_referrers.mp hy).1).1
    exact ⟨hne, hroot, hnew, b, (mem_referrers_iff_of_keyAt? hi hb).mp hy,
      (reflTransGen_owns_iff hg hb hj).mp hpath.to_reflTransGen⟩
  · intro h
    obtain ⟨hne, hroot, hnew, b, hb, hpath⟩ := h
    obtain ⟨y, -, hy, -, -⟩ := mem_keyEdges_iff.mp hb.1
    refine ⟨lt_size_of_keyAt? hj, hne, hroot, hnew, y,
      (mem_referrers_iff_of_keyAt? hi hy).mpr hb, ?_⟩
    obtain rfl | hpath := reflTransGen_iff_eq_or_transGen.mp
      ((reflTransGen_owns_iff hg hy hj).mpr hpath)
    · obtain rfl := Option.some.inj (hy.symm.trans hj)
      exact absurd hb hnew
    · exact hpath

theorem mem_filterMap_ownedBelow
    (hg : g.isLinked = true)
    (hi : g.keyAt? i = some a) :
    k ∈ (g.ownedBelow i (g.referrers i)).filterMap g.keyAt? ↔ g.KeyOwnedByAffected a k := by
  rw [List.mem_filterMap]
  constructor
  · intro h
    obtain ⟨j, hj, hjk⟩ := h
    exact (mem_ownedBelow_iff_of_keyAt? hg hi hjk).mp hj
  · intro h
    obtain ⟨-, -, -, b, hb, hpath⟩ := id h
    have hk : ∃ j, g.keyAt? j = some k := by
      obtain rfl | ⟨c, -, howns⟩ := hpath.cases_tail
      · obtain ⟨j, -, hj, -, -⟩ := mem_keyEdges_iff.mp hb.1
        exact ⟨j, hj⟩
      · obtain ⟨-, j, -, hj, -⟩ := mem_keyEdges_iff.mp howns
        exact ⟨j, hj⟩
    obtain ⟨j, hj⟩ := hk
    exact ⟨j, (mem_ownedBelow_iff_of_keyAt? hg hi hj).mpr h, hj⟩

end ClusterLineage.Lineage
