import ClusterLineage.Proofs.Lineage.Component

/-!
# Queries

A query starts from one node and takes any number of steps.  Each step is a closure of what has been
selected so far: all owners, all that is owned, or all that is referenced directly.  What a chain of
steps selects never has the cluster in it, unless that is where the chain starts, and even then the
cluster is not shown.
-/

namespace ClusterLineage.Lineage

open Relation

variable {g : Lineage} {s t : Selection} {step : Growth} {steps : List Growth} {i j x y z : Nat}
variable {key : Text}

/-- A step leads from a selected node to another one. -/
def Leads (g : Lineage) : Growth → Nat → Nat → Prop
  | .ancestors, y, x => TransGen g.Owns x y
  | .descendants, y, x => TransGen g.Owns y x
  | .references, y, x => (⟨y, x, .references⟩ : Edge) ∈ g.edges

/-- An edge joins two resources, in either direction.  The cluster does not count. -/
def Joined (g : Lineage) (x y : Nat) : Prop :=
  x ≠ 0 ∧ y ≠ 0 ∧ ∃ type, (⟨x, y, type⟩ : Edge) ∈ g.edges ∨ (⟨y, x, type⟩ : Edge) ∈ g.edges

theorem Leads.lt_size
    (hg : g.isLinked = true)
    (h : g.Leads step y x) :
    x < g.size := by
  cases step with
  | ancestors =>
    obtain ⟨c, hc, -⟩ := TransGen.head'_iff.mp h
    exact hc.source_lt_size hg
  | descendants =>
    obtain ⟨p, -, hp⟩ := TransGen.tail'_iff.mp h
    exact hp.lt_size hg
  | references => exact (ends_lt_size_of_mem_edges hg h).2

theorem mem_grow_iff (hg : g.isLinked = true) :
    x ∈ g.grow s step ↔ x < g.size ∧ (x ∈ s ∨ x ≠ 0 ∧ ∃ y ∈ s, g.Leads step y x) := by
  cases step with
  | ancestors => exact mem_withAncestors hg
  | descendants => exact mem_withDescendants hg
  | references => exact mem_withReferences

/-- A step selects what was selected, and what it leads to from there. -/
theorem mem_grow
    (hg : g.isLinked = true)
    (hs : ∀ x ∈ s, x < g.size) :
    x ∈ g.grow s step ↔ x ∈ s ∨ x ≠ 0 ∧ ∃ y ∈ s, g.Leads step y x := by
  rw [mem_grow_iff hg, and_iff_right_of_imp]
  rintro (hx | ⟨-, y, -, hlead⟩)
  · exact hs x hx
  · exact hlead.lt_size hg

theorem lt_size_of_mem_grow
    (hg : g.isLinked = true)
    (hx : x ∈ g.grow s step) :
    x < g.size :=
  ((mem_grow_iff hg).mp hx).1

/-- Selections are in the order of the nodes, so their members determine what they grow to. -/
theorem extend_eq_filter (g : Lineage) (s : Selection) (added : List Nat) :
    g.extend s added = (List.range g.size).filter (· ∈ g.extend s added) := by
  rw [extend]
  apply List.filter_congr
  intro x hx
  simp only [List.mem_filter, hx, true_and, Bool.decide_eq_true]

theorem grow_eq_filter (g : Lineage) (s : Selection) (step : Growth) :
    g.grow s step = (List.range g.size).filter (· ∈ g.grow s step) := by
  cases step <;> exact extend_eq_filter g s _

/-- A step is a closure of single nodes, so it can be taken from two selections apart. -/
theorem mem_grow_union (hg : g.isLinked = true) :
    x ∈ g.grow (s ∪ t) step ↔ x ∈ g.grow s step ∨ x ∈ g.grow t step := by
  simp only [mem_grow_iff hg, List.mem_union_iff]
  grind

/-- Steps along ownership lead no further when they are taken again. -/
theorem Leads.trans
    (hstep : step ≠ .references)
    (hzy : g.Leads step z y)
    (hyx : g.Leads step y x) :
    g.Leads step z x := by
  cases step with
  | ancestors => exact TransGen.trans hyx hzy
  | descendants => exact TransGen.trans hzy hyx
  | references => exact absurd rfl hstep

theorem grow_grow
    (hg : g.isLinked = true)
    (hstep : step ≠ .references) :
    g.grow (g.grow s step) step = g.grow s step := by
  have hmem : ∀ x, x ∈ g.grow (g.grow s step) step ↔ x ∈ g.grow s step := by
    intro x
    rw [mem_grow hg fun x hx => lt_size_of_mem_grow hg hx]
    constructor
    · rintro (hx | ⟨hzero, y, hy, hyx⟩)
      · exact hx
      · obtain ⟨-, hy | ⟨-, z, hz, hzy⟩⟩ := (mem_grow_iff hg).mp hy
        · exact (mem_grow_iff hg).mpr ⟨hyx.lt_size hg, .inr ⟨hzero, y, hy, hyx⟩⟩
        · exact (mem_grow_iff hg).mpr
            ⟨hyx.lt_size hg, .inr ⟨hzero, z, hz, hzy.trans hstep hyx⟩⟩
    · exact .inl
  rw [grow_eq_filter g (g.grow s step) step, grow_eq_filter g s step]
  simp only [← grow_eq_filter, hmem]

/-- Owners above a node are those that it is below. -/
theorem mem_grow_descendants_iff
    (hg : g.isLinked = true)
    (hi : i ≠ 0)
    (hj : j ≠ 0)
    (hisize : i < g.size)
    (hjsize : j < g.size) :
    j ∈ g.grow [i] .descendants ↔ i ∈ g.grow [j] .ancestors := by
  rw [mem_grow_iff hg, mem_grow_iff hg, and_iff_right hisize, and_iff_right hjsize]
  simp only [List.mem_singleton, exists_eq_left, Leads, and_iff_right hi, and_iff_right hj]
  rw [eq_comm]

/-! ## Chains of steps -/

/-- What a step keeps holds after a chain of steps. -/
theorem growAll_induction
    {P : Selection → Prop}
    (hstart : P s)
    (hgrow : ∀ s step, P s → P (g.grow s step)) :
    P (g.growAll s steps) := by
  induction steps generalizing s with
  | nil => exact hstart
  | cons step steps ih => exact ih (hgrow s step hstart)

theorem nodup_grow (g : Lineage) (s : Selection) (step : Growth) : (g.grow s step).Nodup := by
  rw [grow_eq_filter]
  exact List.nodup_range.filter _

theorem lt_size_of_mem_growAll
    (hg : g.isLinked = true)
    (hi : i < g.size) :
    ∀ x ∈ g.growAll [i] steps, x < g.size := by
  apply growAll_induction (P := fun s => ∀ x ∈ s, x < g.size)
  · intro x hx
    rwa [List.mem_singleton.mp hx]
  · intro s step _ x hx
    exact lt_size_of_mem_grow hg hx

theorem nodup_growAll (g : Lineage) (i : Nat) (steps : List Growth) :
    (g.growAll [i] steps).Nodup :=
  growAll_induction (List.nodup_singleton i) fun s step _ => nodup_grow g s step

theorem Joined.of_kin (h : g.Kin x y) : g.Joined x y :=
  ⟨h.1, h.2.1, .owns, h.2.2⟩

/-- A step does not leave the part of the graph that is connected without the cluster. -/
theorem Leads.reflTransGen_joined
    (hg : g.isLinked = true)
    (hy : y ≠ 0)
    (hx : x ≠ 0)
    (h : g.Leads step y x) :
    ReflTransGen g.Joined y x := by
  cases step with
  | ancestors =>
    have hbelow : g.SameComponent x y := sameComponent_of_below hg hx h.to_reflTransGen
    exact ReflTransGen.mono (fun _ _ => Joined.of_kin) _ _ hbelow.symm
  | descendants =>
    have hbelow : g.SameComponent y x := sameComponent_of_below hg hy h.to_reflTransGen
    exact ReflTransGen.mono (fun _ _ => Joined.of_kin) _ _ hbelow
  | references => exact .single ⟨hy, hx, .references, .inl h⟩

/-- A chain of steps from a resource does not leave the part of the graph that is connected without
the cluster. -/
theorem reflTransGen_joined_of_mem_growAll
    (hg : g.isLinked = true)
    (hi : i ≠ 0) :
    ∀ x ∈ g.growAll [i] steps, x ≠ 0 ∧ ReflTransGen g.Joined i x := by
  apply growAll_induction (P := fun s => ∀ x ∈ s, x ≠ 0 ∧ ReflTransGen g.Joined i x)
  · intro x hx
    obtain rfl := List.mem_singleton.mp hx
    exact ⟨hi, .refl⟩
  · intro s step hs x hx
    obtain ⟨-, hx | ⟨hzero, y, hy, hlead⟩⟩ := (mem_grow_iff hg).mp hx
    · exact hs x hx
    · obtain ⟨hyzero, hiy⟩ := hs y hy
      exact ⟨hzero, hiy.trans (hlead.reflTransGen_joined hg hyzero hzero)⟩

/-! ## What is shown -/

theorem length_sortedKeys (hs : ∀ x ∈ s, x < g.size) : (g.sortedKeys s).length = s.length := by
  rw [sortedKeys, Text.sorted, List.length_mergeSort, List.length_filterMap_eq_countP,
    List.countP_eq_length]
  intro x hx
  obtain ⟨k, hk⟩ := exists_keyAt? (hs x hx)
  rw [hk, Option.isSome_some]

/-- A selection is shown by the keys of its resources, and a step from it is exactly the closure that
the step stands for. -/
structure QueryExact (g : Lineage) (s : Selection) : Prop where
  mem_grow : ∀ step x, x ∈ g.grow s step ↔ x ∈ s ∨ x ≠ 0 ∧ ∃ y ∈ s, g.Leads step y x
  subset_grow : ∀ step, s ⊆ g.grow s step
  grow_grow : ∀ step, step ≠ .references → g.grow (g.grow s step) step = g.grow s step
  root_not_shown : 0 ∉ Selection.shown s
  root_not_listed : g.root.key ∉ g.sortedKeys (Selection.shown s)
  mem_keys : ∀ k, k ∈ g.sortedKeys (Selection.shown s) ↔
    ∃ x ∈ s, x ≠ 0 ∧ g.keyAt? x = some k
  ascending : Text.Ascending (g.sortedKeys (Selection.shown s))
  length : (g.sortedKeys (Selection.shown s)).length = (Selection.shown s).length

theorem mem_shown : x ∈ Selection.shown s ↔ x ∈ s ∧ x ≠ 0 := by
  rw [Selection.shown, List.mem_filter, bne_iff_ne]

theorem queryExact
    (hg : g.isLinked = true)
    (hs : ∀ x ∈ s, x < g.size)
    (hnodup : s.Nodup) :
    g.QueryExact s := by
  have hgrow : ∀ step x, x ∈ g.grow s step ↔ x ∈ s ∨ x ≠ 0 ∧ ∃ y ∈ s, g.Leads step y x :=
    fun _ _ => mem_grow hg hs
  have hkeys : ∀ k, k ∈ g.sortedKeys (Selection.shown s) ↔
      ∃ x ∈ s, x ≠ 0 ∧ g.keyAt? x = some k := by
    intro k
    simp only [mem_sortedKeys, mem_shown, and_assoc]
  refine ⟨hgrow, ?_, fun step => grow_grow hg, ?_, ?_, hkeys, ?_, ?_⟩
  · intro step x hx
    exact (hgrow step x).mpr (.inl hx)
  · intro hzero
    exact (mem_shown.mp hzero).2 rfl
  · rw [hkeys]
    rintro ⟨x, -, hne, hx⟩
    exact hne (keyAt?_inj hx (keyAt?_zero g))
  · exact ascending_sortedKeys g (hnodup.filter _)
  · exact length_sortedKeys fun x hx => hs x (mem_shown.mp hx).1

/-- The steps of a query are exact.  In a linked lineage, with whatever cycles of ownership, each
step of a chain adds exactly what it leads to, and the cluster is neither added nor shown, wherever
the chain starts.  A step can be taken from parts of a selection apart, ancestors and descendants are
converse to each other, a chain does not leave the component of the resource that it starts from, and
the walk to the ancestors ends by itself, not because its steps are bounded. -/
theorem query_exact (g : Lineage) (hg : g.isLinked = true) :
    (∀ key s steps, g.select? key = some s → g.QueryExact (g.growAll s steps)) ∧
      (∀ s t step x, x ∈ g.grow (s ∪ t) step ↔ x ∈ g.grow s step ∨ x ∈ g.grow t step) ∧
      (∀ i j, i ≠ 0 → j ≠ 0 → i < g.size → j < g.size →
        (j ∈ g.grow [i] .descendants ↔ i ∈ g.grow [j] .ancestors)) ∧
      (∀ key i steps, i ≠ 0 → g.select? key = some [i] →
        ∀ x ∈ g.growAll [i] steps, ReflTransGen g.Joined i x) ∧
      ∀ i more, i < g.size → g.size ≤ more → climb g.parent? more [i] i = g.ancestors i := by
  refine ⟨?_, fun s t step x => mem_grow_union hg, ?_, ?_, ?_⟩
  · intro key s steps hselect
    obtain ⟨i, hi, rfl⟩ := Option.map_eq_some_iff.mp hselect
    have hsize : i < g.size := lt_size_of_keyAt? (indexOf?_eq_some_iff.mp hi)
    exact queryExact hg (lt_size_of_mem_growAll hg hsize) (nodup_growAll g i steps)
  · intro i j hi hj hisize hjsize
    exact mem_grow_descendants_iff hg hi hj hisize hjsize
  · intro key i steps hi _ x hx
    exact (reflTransGen_joined_of_mem_growAll hg hi x hx).2
  · intro i more hi hmore
    apply climb_of_le _ (Passed.single hi) (Nat.le_add_right _ _) hmore
    intro c p hp
    exact ((parent?_eq_some_iff hg).mp hp).source_lt_size hg

/-- Two pods own each other, a third one is below them and names a config map.  From the third pod
its ancestors and what those own are found, and from there the config map.  From the cluster neither
the pods around the cycle nor the cluster itself is found. -/
theorem query_exact_around_cycle :
    let g := linkAll { kind := "cluster", name := "prod" }
      [{ kind := "Pod", name := "a", owners := [{ kind := "Pod", name := "b" }] },
        { kind := "Pod", name := "b", owners := [{ kind := "Pod", name := "a" }] },
        { kind := "Pod", name := "c", owners := [{ kind := "Pod", name := "a" }],
          relations := [{ kind := "ConfigMap", name := "cfg" }] },
        { kind := "ConfigMap", name := "cfg" }] false
    g.isLinked = true ∧ g.select? "POD/c" = some [3] ∧ g.select? "cluster/prod" = some [0] ∧
      g.QueryExact (g.growAll [3] [.ancestors, .descendants, .references]) ∧
      g.QueryExact (g.growAll [0] [.descendants]) ∧
      (∀ x ∈ g.growAll [3] [.ancestors, .references], ReflTransGen g.Joined 3 x) ∧
      (3 ∈ g.grow [1] .descendants ↔ 1 ∈ g.grow [3] .ancestors) ∧
      climb g.parent? 100 [3] 3 = g.ancestors 3 ∧
      g.growAll [3] [.ancestors, .references] = [1, 2, 3, 4] ∧
      Selection.shown (g.growAll [0] [.descendants]) = [4] := by
  intro g
  have hpod : g.select? "POD/c" = some [3] := by decide +kernel
  have hroot : g.select? "cluster/prod" = some [0] := by decide +kernel
  obtain ⟨hexact, -, hconverse, hcomponent, hends⟩ := query_exact g rfl
  exact ⟨rfl, hpod, hroot, hexact _ _ _ hpod, hexact _ _ _ hroot,
    hcomponent _ 3 _ (by decide) hpod,
    hconverse 1 3 (by decide) (by decide) (by decide) (by decide),
    hends 3 100 (by decide) (by decide), by decide +kernel, by decide +kernel⟩

end ClusterLineage.Lineage
