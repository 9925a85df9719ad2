import ClusterLineage.Proofs.Batch.ReorderedViews
import ClusterLineage.Proofs.Report
import ClusterLineage.Proofs.Text.Words

/-!
# No declared reference is lost

Linking goes once through what each resource names.  A reference to a node becomes two edges, and
any other one is recorded.  So what is recorded, together with the edges, accounts for every
reference as often as it is declared, and so do the tables and the report made from it.
-/

namespace ClusterLineage

/-- A recorded reference has the key that it is declared with. -/
theorem Unresolved.key_ofRef (x : Resource) (ref : Ref) :
    key (ofRef x ref).kind (ofRef x ref).ns (ofRef x ref).name = ref.key :=
  key_congr (Kind.lower_canonical ref.kind) ref.ns ref.name

namespace Links

variable {keys : List Text} {members : List Resource} {x : Resource} {ref : Ref} {u : Unresolved}

theorem unresolvedOf_eq (keys : List Text) (x : Resource) :
    unresolvedOf keys x = (x.relations.filter fun ref => ref.key ∉ keys).map (.ofRef x) := by
  unfold unresolvedOf
  congr 1
  apply List.filter_congr
  intro ref _
  rw [Bool.eq_iff_iff, decide_eq_true_eq, Option.isNone_iff_eq_none, resolve?_eq_none_iff]

theorem key_not_mem_of_mem_unresolvedOf (hu : u ∈ unresolvedOf keys x) :
    key u.kind u.ns u.name ∉ keys := by
  rw [unresolvedOf_eq] at hu
  obtain ⟨ref, href, rfl⟩ := List.mem_map.mp hu
  rw [Unresolved.key_ofRef]
  exact of_decide_eq_true (List.mem_filter.mp href).2

theorem length_unresolvedOf (keys : List Text) (x : Resource) :
    (unresolvedOf keys x).length + (x.relations.countP fun ref => ref.key ∈ keys) =
      x.relations.length := by
  rw [unresolvedOf_eq, List.length_map, ← List.countP_eq_length_filter,
    List.length_eq_countP_add_countP (fun ref : Ref => decide (ref.key ∈ keys)), Nat.add_comm]
  simp only [decide_not, Bool.decide_eq_true]

/-- The edges that come from what resources name are those of the references to nodes. -/
theorem relationEdges_eq (hkeys : keys.Nodup) (members : List Resource) :
    relationEdges keys members = (numbered members).flatMap fun (x, i) =>
      (x.relations.filter fun ref => ref.key ∈ keys).flatMap fun ref =>
        bothWays i (keys.idxOf ref.key) := by
  apply List.flatMap_congr
  intro p _
  dsimp only
  rw [← flatMap_ite_nil]
  apply List.flatMap_congr
  intro ref _
  by_cases href : ref.key ∈ keys
  · have hsome : resolve? keys ref = some (keys.idxOf ref.key) :=
      (resolve?_eq_some_iff hkeys).mpr (List.getElem?_idxOf href)
    rw [hsome, if_pos (decide_eq_true href)]
  · rw [resolve?_eq_none_iff.mpr href, if_neg (by simpa using href)]

end Links

namespace Lineage

open Links

variable {g : Lineage} {i j : Nat} {x : Resource} {ref : Ref} {u : Unresolved}

/-- What is recorded of a resource is what it names itself. -/
theorem unresolvedFrom_eq
    (hg : g.isLinked = true)
    (hi : i ≠ 0)
    (hx : g.nodes[i]? = some x) :
    g.unresolvedFrom i = unresolvedOf g.keys x := by
  have hkeys : (g.members.map Resource.key).Nodup := (List.nodup_cons.mp g.nodup_keys).2
  have hmem : x ∈ g.members := mem_members_iff.mpr ⟨i, hi, hx⟩
  rw [unresolvedFrom, keyAt?_of_getElem? hx]
  dsimp only
  rw [filter_source_unresolved hg, filter_key_eq_singleton hkeys hmem, List.flatMap_singleton]

theorem edges_eq (hg : g.isLinked = true) :
    g.edges = ownerEdges g.keys g.members ++ selectorEdges g.members ++
      (numbered g.members).flatMap fun (x, i) =>
        (x.relations.filter fun ref => ref.key ∈ g.keys).flatMap fun ref =>
          bothWays i (g.keys.idxOf ref.key) := by
  rw [← relationEdges_eq g.keys_nodup, edges, g.links_of_linked hg]
  rfl

theorem key_not_mem_of_mem_unresolved
    (hg : g.isLinked = true)
    (hu : u ∈ g.unresolved) :
    key u.kind u.ns u.name ∉ g.keys := by
  rw [unresolved_eq hg] at hu
  obtain ⟨x, -, hux⟩ := List.mem_flatMap.mp hu
  exact key_not_mem_of_mem_unresolvedOf hux

/-- A reference to a node leads there and back, and is not recorded. -/
theorem references_of_mem_relations
    (hg : g.isLinked = true)
    (hi : i ≠ 0)
    (hx : g.nodes[i]? = some x)
    (href : ref ∈ x.relations)
    (hj : g.keyAt? j = some ref.key) :
    ⟨i, j, .references⟩ ∈ g.edges ∧ ⟨j, i, .references⟩ ∈ g.edges ∧
      Unresolved.ofRef x ref ∉ g.unresolved := by
  have hkey : ref.key ∈ g.keys := mem_keys_iff.mpr ⟨j, hj⟩
  have hnumber : g.keys.idxOf ref.key = j := by
    have hidx := List.getElem?_idxOf hkey
    rw [← keyAt?_eq_getElem?] at hidx
    exact keyAt?_inj hidx hj
  have hdrawn : bothWays i j ⊆ g.edges := by
    intro e he
    rw [edges_eq hg]
    apply List.mem_append_right
    refine List.mem_flatMap.mpr ⟨(x, i), mem_numbered.mpr ⟨hi, hx⟩, List.mem_flatMap.mpr ⟨ref, ?_, ?_⟩⟩
    · exact List.mem_filter.mpr ⟨href, decide_eq_true hkey⟩
    · rwa [hnumber]
  have hrecorded : Unresolved.ofRef x ref ∉ g.unresolved := by
    intro hu
    have hnone := key_not_mem_of_mem_unresolved hg hu
    rw [Unresolved.key_ofRef] at hnone
    exact hnone hkey
  exact ⟨hdrawn List.mem_cons_self, hdrawn (List.mem_cons_of_mem _ List.mem_cons_self), hrecorded⟩

/-- The recorded targets of one resource, by kind. -/
theorem mem_targetsByKind_unresolvedFrom_iff
    (hx : g.nodes[i]? = some x)
    {k : Text}
    {ts : List Text} :
    (k, ts) ∈ Unresolved.targetsByKind (g.unresolvedFrom i) ↔
      ts ≠ [] ∧
        ts = (g.unresolved.filter fun u => u.source = x.key ∧ u.kind = k).map Unresolved.target := by
  rw [unresolvedFrom, keyAt?_of_getElem? hx]
  dsimp only
  rw [Unresolved.mem_targetsByKind_iff, List.filter_filter]
  have hfilter : (g.unresolved.filter fun u => decide (u.kind = k) && u.source == x.key) =
      g.unresolved.filter fun u => u.source = x.key ∧ u.kind = k := by
    apply List.filter_congr
    intro u _
    rw [Bool.eq_iff_iff, Bool.and_eq_true, decide_eq_true_eq, decide_eq_true_eq, beq_iff_eq,
      and_comm]
  rw [hfilter]

/-- Every reference that a resource declares is drawn or recorded, exactly once, and what is recorded
is all there in the tables by kind, in the report and in its lines. -/
structure ReferencesConserved (g : Lineage) : Prop where
  recorded : g.unresolved = g.members.flatMap fun x =>
    (x.relations.filter fun ref => ref.key ∉ g.keys).map fun ref =>
      ⟨x.key, Kind.canonical ref.kind, ref.name, ref.ns⟩
  drawn : g.edges = ownerEdges g.keys g.members ++ selectorEdges g.members ++
    (numbered g.members).flatMap fun (x, i) =>
      (x.relations.filter fun ref => ref.key ∈ g.keys).flatMap fun ref =>
        bothWays i (g.keys.idxOf ref.key)
  settled : ∀ i x, i ≠ 0 → g.nodes[i]? = some x → ∀ ref ∈ x.relations,
    (∃ j, g.keyAt? j = some ref.key ∧ ⟨i, j, .references⟩ ∈ g.edges ∧
      ⟨j, i, .references⟩ ∈ g.edges ∧ Unresolved.ofRef x ref ∉ g.unresolved) ∨
    ref.key ∉ g.keys ∧ Unresolved.ofRef x ref ∈ g.unresolvedFrom i
  counted : ∀ i x, i ≠ 0 → g.nodes[i]? = some x →
    (g.unresolvedFrom i).length + (x.relations.countP fun ref => ref.key ∈ g.keys) =
      x.relations.length
  dangling : ∀ u ∈ g.unresolved, key u.kind u.ns u.name ∉ g.keys
  kinds_nodup : ∀ i, ((Unresolved.targetsByKind (g.unresolvedFrom i)).map Prod.fst).Nodup
  by_kind : ∀ i x, i ≠ 0 → g.nodes[i]? = some x → ∀ k ts,
    (k, ts) ∈ Unresolved.targetsByKind (g.unresolvedFrom i) ↔
      ts ≠ [] ∧
        ts = (g.unresolved.filter fun u => u.source = x.key ∧ u.kind = k).map Unresolved.target
  reported : Unresolved.Partitioned g.unresolved (Unresolved.report g.unresolved)
  lines : Unresolved.reportLines (Unresolved.report g.unresolved) =
    ((Unresolved.report g.unresolved).flatMap Prod.snd).map Unresolved.line

theorem referencesConserved_of_linked (hg : g.isLinked = true) : g.ReferencesConserved where
  recorded := by
    rw [unresolved_eq hg]
    apply List.flatMap_congr
    intro x _
    exact unresolvedOf_eq g.keys x
  drawn := edges_eq hg
  settled i x hi hx ref href := by
    by_cases hkey : ref.key ∈ g.keys
    · obtain ⟨j, hj⟩ := mem_keys_iff.mp hkey
      exact .inl ⟨j, hj, references_of_mem_relations hg hi hx href hj⟩
    · rw [unresolvedFrom_eq hg hi hx, unresolvedOf_eq]
      exact .inr ⟨hkey, List.mem_map_of_mem (List.mem_filter.mpr ⟨href, decide_eq_true hkey⟩)⟩
  counted i x hi hx := by
    rw [unresolvedFrom_eq hg hi hx, length_unresolvedOf]
  dangling _ hu := key_not_mem_of_mem_unresolved hg hu
  kinds_nodup i := Unresolved.nodup_kinds_targetsByKind (g.unresolvedFrom i)
  by_kind _ _ _ hx _ _ := mem_targetsByKind_unresolvedFrom_iff hx
  reported := Unresolved.partitioned_report g.unresolved
  lines := Unresolved.reportLines_eq _

/-- No declared reference is lost and none is reported twice.  After resources have been added to a
cluster and linked, with or without a check of ownership, the resources are the first ones with each
new key, and each of their references is drawn or recorded and reported exactly once. -/
theorem references_linkAll_conserved (root : Resource) (rs : List Resource) (validate : Bool) :
    (linkAll root rs validate).nodes = root :: accepted [root.key] rs ∧
      (linkAll root rs validate).ReferencesConserved := by
  constructor
  · rw [nodes, root_linkAll, members_linkAll]
  · exact referencesConserved_of_linked (isLinked_linkAll root rs validate)

/-- A pod names a missing claim twice, in different letter case. -/
example :
    let pod : Resource :=
      { kind := "Pod", name := "p", relations :=
        [⟨"persistentvolumeclaim", "b", none, none, none⟩,
          ⟨"PersistentVolumeClaim", "b", none, none, none⟩] }
    let g := linkAll { kind := "Cluster", name := "prod" } [pod] false
    Unresolved.targetsByKind (g.unresolvedFrom 1) =
      [(.ofString "PersistentVolumeClaim", Text.ofStrings ["b", "b"])] := by
  decide +kernel

end Lineage

end ClusterLineage
