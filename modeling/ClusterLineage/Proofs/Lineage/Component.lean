import ClusterLineage.Proofs.Lineage.EdgeCounts
import ClusterLineage.Proofs.Lineage.Selections
import ClusterLineage.Proofs.Lineage.SortedKeys
import ClusterLineage.Proofs.Ownership.Check

/-!
# Components of ownership

What is related to a resource is found by going up to its owners, down to all that these own, and
one reference further.  Going up and then down leads to the whole component of ownership around the
resource, also where ownership runs around a cycle: every node has one owner, so two resources are
connected, in whatever direction, just if some resource is above both or is one of them.
-/

namespace ClusterLineage.Lineage

open Relation

variable {g : Lineage} {i j x y z : Nat} {key k : Text}

/-- One of two resources owns the other.  The cluster does not count. -/
def Kin (g : Lineage) (x y : Nat) : Prop :=
  x ≠ 0 ∧ y ≠ 0 ∧ (g.Owns x y ∨ g.Owns y x)

/-- Ownership connects two nodes, in either direction and without a way through the cluster. -/
def SameComponent (g : Lineage) (x y : Nat) : Prop :=
  ReflTransGen g.Kin x y

/-- A reference joins two nodes. -/
def Referenced (g : Lineage) (x y : Nat) : Prop :=
  (⟨x, y, .references⟩ : Edge) ∈ g.edges ∨ (⟨y, x, .references⟩ : Edge) ∈ g.edges

/-- A resource is in the component of a node, or a reference joins it to one that is. -/
def Related (g : Lineage) (i x : Nat) : Prop :=
  x ≠ 0 ∧ (g.SameComponent i x ∨ ∃ y, g.SameComponent i y ∧ g.Referenced y x)

theorem Kin.symm (h : g.Kin x y) : g.Kin y x :=
  ⟨h.2.1, h.1, h.2.2.symm⟩

theorem SameComponent.symm (h : g.SameComponent x y) : g.SameComponent y x := by
  induction h with
  | refl => exact .refl
  | tail _ hstep ih => exact .head hstep.symm ih

theorem SameComponent.trans
    (h : g.SameComponent x y)
    (h' : g.SameComponent y z) :
    g.SameComponent x z :=
  ReflTransGen.trans h h'

theorem SameComponent.ne_zero
    (h : g.SameComponent i x)
    (hi : i ≠ 0) :
    x ≠ 0 := by
  rcases h.cases_tail with rfl | ⟨y, -, hstep⟩
  · exact hi
  · exact hstep.2.1

/-- Nothing on the way down from a resource is the cluster. -/
theorem sameComponent_of_below
    (hg : g.isLinked = true)
    (hy : y ≠ 0)
    (h : ReflTransGen g.Owns y x) :
    g.SameComponent y x := by
  induction h with
  | refl => exact .refl
  | tail _ hstep ih =>
    exact .tail ih ⟨ih.ne_zero hy, ((owns_iff hg).mp hstep).1, .inl hstep⟩

/-- Two nodes are connected just if some node is above both or is one of them. -/
theorem sameComponent_iff
    (hg : g.isLinked = true)
    (hi : i ≠ 0) :
    g.SameComponent i x ↔
      ∃ y, y ≠ 0 ∧ ReflTransGen g.Owns y i ∧ ReflTransGen g.Owns y x := by
  constructor
  · intro h
    induction h with
    | refl => exact ⟨i, hi, .refl, .refl⟩
    | @tail x z _ hstep ih =>
      obtain ⟨y, hy, hyi, hyx⟩ := ih
      obtain ⟨-, hz, hdown | hup⟩ := hstep
      · exact ⟨y, hy, hyi, hyx.tail hdown⟩
      · -- the owner of `x` is on the way down from `y`, unless that way starts at `x`
        rcases hyx.cases_tail with rfl | ⟨w, hyw, hwx⟩
        · exact ⟨z, hz, .head hup hyi, .refl⟩
        · obtain rfl : w = z := hwx.unique hg hup
          exact ⟨y, hy, hyi, hyw⟩
  · rintro ⟨y, hy, hyi, hyx⟩
    exact (sameComponent_of_below hg hy hyi).symm.trans (sameComponent_of_below hg hy hyx)

theorem lt_size_of_sameComponent
    (hg : g.isLinked = true)
    (hi : i < g.size)
    (h : g.SameComponent i x) :
    x < g.size := by
  rcases h.cases_tail with rfl | ⟨y, -, -, -, hdown | hup⟩
  · exact hi
  · exact hdown.lt_size hg
  · exact hup.source_lt_size hg

/-- The owners above a resource, and all that is below them, are its component. -/
theorem mem_withDescendants_withAncestors
    (hg : g.isLinked = true)
    (hi : i ≠ 0)
    (hsize : i < g.size) :
    x ∈ g.withDescendants (g.withAncestors [i]) ↔ g.SameComponent i x := by
  have habove : ∀ y, y ∈ g.withAncestors [i] ↔ y ≠ 0 ∧ ReflTransGen g.Owns y i := by
    intro y
    rw [mem_withAncestors hg, List.mem_singleton, reflTransGen_iff_eq_or_transGen]
    constructor
    · rintro ⟨-, rfl | ⟨hy, _, hmem, hyi⟩⟩
      · exact ⟨hi, .inl rfl⟩
      · exact ⟨hy, .inr (List.mem_singleton.mp hmem ▸ hyi)⟩
    · rintro ⟨hy, rfl | hyi⟩
      · exact ⟨hsize, .inl rfl⟩
      · obtain ⟨c, hc, -⟩ := TransGen.head'_iff.mp hyi
        exact ⟨hc.source_lt_size hg, .inr ⟨hy, i, List.mem_singleton_self i, hyi⟩⟩
  rw [mem_withDescendants hg, sameComponent_iff hg hi]
  simp only [habove]
  constructor
  · rintro ⟨-, ⟨hx, hxi⟩ | ⟨-, y, ⟨hy, hyi⟩, hyx⟩⟩
    · exact ⟨x, hx, hxi, .refl⟩
    · exact ⟨y, hy, hyi, hyx.to_reflTransGen⟩
  · rintro ⟨y, hy, hyi, hyx⟩
    have hconnected : g.SameComponent i x := (sameComponent_iff hg hi).mpr ⟨y, hy, hyi, hyx⟩
    refine ⟨lt_size_of_sameComponent hg hsize hconnected, ?_⟩
    rcases reflTransGen_iff_eq_or_transGen.mp hyx with rfl | hyx
    · exact .inl ⟨hy, hyi⟩
    · exact .inr ⟨hconnected.ne_zero hi, y, ⟨hy, hyi⟩, hyx⟩

theorem lt_size_of_related
    (hg : g.isLinked = true)
    (hi : i < g.size)
    (h : g.Related i x) :
    x < g.size := by
  obtain ⟨-, hcomponent | ⟨y, -, hthere | hback⟩⟩ := h
  · exact lt_size_of_sameComponent hg hi hcomponent
  · exact (ends_lt_size_of_mem_edges hg hthere).2
  · exact (ends_lt_size_of_mem_edges hg hback).1

/-- What the search finds is the component and what a reference joins to it. -/
theorem mem_relatedTo_iff
    (hg : g.isLinked = true)
    (hi : i ≠ 0)
    (hsize : i < g.size) :
    x ∈ g.relatedTo i ↔ g.Related i x := by
  have hreference : ∀ y, (⟨y, x, .references⟩ : Edge) ∈ g.edges ↔ g.Referenced y x := by
    intro y
    rw [Referenced, mem_references_comm hg (i := x), or_self]
  rw [mem_relatedTo, mem_withReferences]
  simp only [mem_withDescendants_withAncestors hg hi hsize, hreference]
  constructor
  · rintro ⟨⟨-, hcomponent | ⟨-, hjoined⟩⟩, hx⟩
    · exact ⟨hx, .inl hcomponent⟩
    · exact ⟨hx, .inr hjoined⟩
  · intro h
    obtain ⟨hx, hcomponent | hjoined⟩ := id h
    · exact ⟨⟨lt_size_of_related hg hsize h, .inl hcomponent⟩, hx⟩
    · exact ⟨⟨lt_size_of_related hg hsize h, .inr ⟨hx, hjoined⟩⟩, hx⟩

/-- What is related to a node is found in the order of the graph. -/
theorem relatedTo_eq_filter (g : Lineage) (i : Nat) :
    g.relatedTo i = (List.range g.size).filter fun x => x ∈ g.relatedTo i := by
  rw [relatedTo, Selection.shown, withReferences, extend, List.filter_filter]
  apply List.filter_congr
  intro x hx
  simp only [List.mem_filter, hx, true_and, Bool.decide_eq_true]

/-! ## Answers -/

theorem related_eq_of_sameComponent (h : g.SameComponent i j) : g.Related i = g.Related j := by
  funext x
  apply propext
  constructor
  · rintro ⟨hx, hix | ⟨y, hiy, hyx⟩⟩
    · exact ⟨hx, .inl (h.symm.trans hix)⟩
    · exact ⟨hx, .inr ⟨y, h.symm.trans hiy, hyx⟩⟩
  · rintro ⟨hx, hjx | ⟨y, hjy, hyx⟩⟩
    · exact ⟨hx, .inl (h.trans hjx)⟩
    · exact ⟨hx, .inr ⟨y, h.trans hjy, hyx⟩⟩

open Classical in
/-- The answers to a key are about what is related to its node: the keys in ascending order, the
nodes, and all edges between them in the order of the graph. -/
structure AnswersRelated (g : Lineage) (key : Text) (i : Nat) : Prop where
  ascending : Text.Ascending (g.relatedKeys key)
  mem_keys : ∀ k, k ∈ g.relatedKeys key ↔ ∃ x, g.keyAt? x = some k ∧ g.Related i x
  self : Text.lower key ∈ g.relatedKeys key
  not_root : g.root.key ∉ g.relatedKeys key
  nodes : g.subgraphNodes key = (List.range g.size).filter fun x => g.Related i x
  edges : g.subgraphEdges key =
    g.orderedEdges.filter fun e => g.Related i e.source ∧ g.Related i e.target

theorem answersRelated
    (hg : g.isLinked = true)
    (hi : i ≠ 0)
    (hkey : g.keyAt? i = some (Text.lower key)) :
    g.AnswersRelated key i := by
  classical
  have hsize : i < g.size := lt_size_of_keyAt? hkey
  have hindex : g.indexOf? key = some i := indexOf?_eq_some_iff.mpr hkey
  have hkeys : g.relatedKeys key = g.sortedKeys (g.relatedTo i) := by
    simp only [relatedKeys, hindex]
  have hnodes : g.subgraphNodes key = g.relatedTo i := by
    simp only [subgraphNodes, hindex]
  have hmem : ∀ k, k ∈ g.relatedKeys key ↔ ∃ x, g.keyAt? x = some k ∧ g.Related i x := by
    intro k
    rw [hkeys, mem_sortedKeys]
    simp only [mem_relatedTo_iff hg hi hsize, and_comm]
  refine ⟨?_, hmem, ?_, ?_, ?_, ?_⟩
  · rw [hkeys]
    exact ascending_sortedKeys g (nodup_relatedTo g i)
  · exact (hmem _).mpr ⟨i, hkey, hi, .inl .refl⟩
  · rw [hmem]
    rintro ⟨x, hx, hne, -⟩
    exact hne (keyAt?_inj hx (keyAt?_zero g))
  · rw [hnodes, relatedTo_eq_filter]
    simp only [mem_relatedTo_iff hg hi hsize]
  · rw [subgraphEdges, hnodes]
    apply List.filter_congr
    intro e _
    simp only [List.contains_eq_mem, mem_relatedTo_iff hg hi hsize, Bool.decide_and]

/-- What is related to a resource is its component of ownership and what a reference joins to it.
After resources have been added to a cluster and linked, with or without a check of ownership, the
answers to the key of a resource, in any letter case, are about exactly that.  So they are the same
for all resources of a component, and empty for an unknown key. -/
theorem related_answers_linkAll (root : Resource) (rs : List Resource) (validate : Bool) :
    let g := linkAll root rs validate
    (∀ key i, i ≠ 0 → g.keyAt? i = some (Text.lower key) → g.AnswersRelated key i) ∧
      (∀ a b i j, i ≠ 0 → g.keyAt? i = some (Text.lower a) → g.keyAt? j = some (Text.lower b) →
        g.SameComponent i j →
          g.relatedKeys a = g.relatedKeys b ∧ g.subgraphNodes a = g.subgraphNodes b ∧
            g.subgraphEdges a = g.subgraphEdges b) ∧
      ∀ key, Text.lower key ∉ g.keys →
        g.relatedKeys key = [] ∧ g.subgraphNodes key = [] ∧ g.subgraphEdges key = [] := by
  intro g
  have hg : g.isLinked = true := isLinked_linkAll root rs validate
  refine ⟨?_, ?_, ?_⟩
  · intro key i hi hkey
    exact answersRelated hg hi hkey
  · intro a b i j hi hia hjb hij
    have ha := answersRelated hg hi hia
    have hb := answersRelated hg (hij.ne_zero hi) hjb
    have hsame := related_eq_of_sameComponent hij
    refine ⟨?_, ?_, ?_⟩
    · apply ha.ascending.eq_of_mem_iff hb.ascending
      intro k
      rw [ha.mem_keys, hb.mem_keys, hsame]
    · rw [ha.nodes, hb.nodes, hsame]
    · rw [ha.edges, hb.edges, hsame]
  · intro key hkey
    have hindex : g.indexOf? key = none := by
      rw [indexOf?, List.idxOf?_eq_none_iff]
      exact hkey
    refine ⟨?_, ?_, ?_⟩
    · simp only [relatedKeys, hindex]
    · simp only [subgraphNodes, hindex]
    · simp [subgraphEdges, subgraphNodes, hindex]

/-- Two pods own each other, and a third one below them names a config map.  From the third pod the
config map is found, and from the second the same as from the third. -/
theorem related_answers_linkAll_around_cycle :
    let root : Resource := { kind := "cluster", name := "prod" }
    let g := linkAll root
      [{ kind := "Pod", name := "a", owners := [{ kind := "pod", name := "B" }] },
        { kind := "Pod", name := "b", owners := [{ kind := "pod", name := "a" }] },
        { kind := "Pod", name := "c", owners := [{ kind := "pod", name := "a" }],
          relations := [{ kind := "ConfigMap", name := "cfg" }] },
        { kind := "ConfigMap", name := "cfg" }] false
    3 ≠ 0 ∧ g.keyAt? 3 = some (Text.lower "POD/C") ∧ g.keyAt? 2 = some (Text.lower "pod/b") ∧
      g.SameComponent 3 2 ∧ Text.lower "pod/gone" ∉ g.keys ∧
      Text.ofString "configmap/cfg" ∈ g.relatedKeys "POD/C" ∧
      g.relatedKeys "POD/C" = g.relatedKeys "pod/b" ∧
      g.relatedKeys "pod/gone" = [] := by
  intro root g
  have hthird : g.keyAt? 3 = some (Text.lower "POD/C") := by decide +kernel
  have hsecond : g.keyAt? 2 = some (Text.lower "pod/b") := by decide +kernel
  have hmap : g.keyAt? 4 = some "configmap/cfg" := by decide +kernel
  have hgone : Text.lower "pod/gone" ∉ g.keys := by decide +kernel
  have hdown : (⟨1, 3, .owns⟩ : Edge) ∈ g.edges := by decide +kernel
  have haround : (⟨2, 1, .owns⟩ : Edge) ∈ g.edges := by decide +kernel
  have hnames : (⟨3, 4, .references⟩ : Edge) ∈ g.edges := by decide +kernel
  have hsame : g.SameComponent 3 2 :=
    .tail (.single ⟨by decide, by decide, .inr hdown⟩) ⟨by decide, by decide, .inr haround⟩
  obtain ⟨hanswers, hcomponent, hunknown⟩ := related_answers_linkAll root _ false
  have hfound := ((hanswers "POD/C" 3 (by decide) hthird).mem_keys "configmap/cfg").mpr
    ⟨4, hmap, by decide, .inr ⟨3, .refl, .inl hnames⟩⟩
  exact ⟨by decide, hthird, hsecond, hsame, hgone, hfound,
    (hcomponent "POD/C" "pod/b" 3 2 (by decide) hthird hsecond hsame).1,
    (hunknown "pod/gone" hgone).1⟩

end ClusterLineage.Lineage
