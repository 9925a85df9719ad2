import ClusterLineage.Proofs.Descriptor.Respelled

/-!
# The letter case of kinds

Two batches that differ only in the letter case of kinds, and in versions and identifiers, are built
to lineages that cannot be told apart by numbers, keys, edges or any answer.
-/

namespace ClusterLineage

/-- Two lineages show the same at every number and give the same answers to every key. -/
structure SameByNumber (g g' : Lineage) : Prop where
  keys : ∀ i, g.keyAt? i = g'.keyAt? i
  edges : g.orderedEdges = g'.orderedEdges
  labels : ∀ i : Nat, g.nodes[i]?.map Resource.labels = g'.nodes[i]?.map Resource.labels
  selectors : ∀ i : Nat, g.nodes[i]?.map Resource.selectors = g'.nodes[i]?.map Resource.selectors
  missing : ∀ i, Unresolved.targetsByKind (g.unresolvedFrom i) =
    Unresolved.targetsByKind (g'.unresolvedFrom i)
  unresolved : g.unresolved = g'.unresolved
  orphans : ∀ i, g.isOrphan i = g'.isOrphan i
  related : ∀ key, g.relatedKeys key = g'.relatedKeys key
  impact : ∀ key, g.impactOf key = g'.impactOf key

namespace Lineage

/-- Two lineages hold resources that differ in spelling only, and linking has derived the same. -/
structure Respelled (g g' : Lineage) : Prop where
  nodes : ClusterLineage.Respelled g.nodes g'.nodes
  links_eq : g.links = g'.links

namespace Respelled

variable {g g' : Lineage} (h : g.Respelled g')
include h

theorem keys_eq : g.keys = g'.keys :=
  h.nodes.map_key_eq

theorem size_eq : g.size = g'.size :=
  h.nodes.length_eq

theorem edges_eq : g.edges = g'.edges := by
  rw [edges, edges, h.links_eq]

theorem keyAt?_eq : g.keyAt? = g'.keyAt? := by
  funext i
  rw [keyAt?_eq_getElem?, keyAt?_eq_getElem?, h.keys_eq]

theorem indexOf?_eq : g.indexOf? = g'.indexOf? := by
  funext key
  rw [indexOf?, indexOf?, h.keys_eq]

theorem unresolved_eq : g.unresolved = g'.unresolved := by
  rw [unresolved, unresolved, h.links_eq]

theorem successors_eq : g.successors = g'.successors := by
  funext i type
  simp only [successors, targets, edgesFrom, hasEdge, h.edges_eq]

theorem ancestors_eq : g.ancestors = g'.ancestors := by
  have hparent : g.parent? = g'.parent? := by
    funext i
    rw [parent?, parent?, h.edges_eq]
  funext i
  rw [ancestors, ancestors, hparent, h.size_eq]

theorem descendants_eq : g.descendants = g'.descendants := by
  funext i
  rw [descendants, descendants, h.successors_eq, h.size_eq]

theorem relatedTo_eq : g.relatedTo = g'.relatedTo := by
  funext i
  simp only [relatedTo, withReferences, withDescendants, withAncestors, extend, h.size_eq,
    h.ancestors_eq, h.descendants_eq, h.successors_eq]

theorem relatedKeys_eq (key : Text) : g.relatedKeys key = g'.relatedKeys key := by
  simp only [relatedKeys, sortedKeys, h.indexOf?_eq, h.relatedTo_eq, h.keyAt?_eq]

theorem impactOf_eq (key : Text) : g.impactOf key = g'.impactOf key := by
  simp only [impactOf, referrers, predecessors, sources, edgesTo, hasEdge, ownedBelow,
    h.indexOf?_eq, h.keyAt?_eq, h.edges_eq, h.descendants_eq]

theorem orderedEdges_eq : g.orderedEdges = g'.orderedEdges := by
  simp only [orderedEdges, targets, edgesFrom, h.edges_eq, h.size_eq]

theorem cycleKeys?_eq : g.cycleKeys? = g'.cycleKeys? := by
  simp only [cycleKeys?, ownershipCycle?, h.successors_eq, h.size_eq, h.keyAt?_eq]

theorem getElem?_map_eq
    {α : Type} {f : Resource → α}
    (hf : ∀ r r', r.Respelled r' → f r = f r')
    (i : Nat) :
    g.nodes[i]?.map f = g'.nodes[i]?.map f := by
  rw [← List.getElem?_map, ← List.getElem?_map, map_eq_of_forall₂ h.nodes hf]

theorem sameByNumber : SameByNumber g g' where
  keys i := by rw [h.keyAt?_eq]
  edges := h.orderedEdges_eq
  labels := h.getElem?_map_eq fun _ _ hr => hr.labels
  selectors := h.getElem?_map_eq fun _ _ hr => hr.selectors
  missing i := by rw [unresolvedFrom, unresolvedFrom, h.keyAt?_eq, h.unresolved_eq]
  unresolved := h.unresolved_eq
  orphans i := by rw [isOrphan, isOrphan, h.links_eq]
  related := h.relatedKeys_eq
  impact := h.impactOf_eq

end Respelled

theorem respelled_linkAll
    {rs rs' : List Resource}
    (h : ClusterLineage.Respelled rs rs')
    (root : Resource)
    (validate : Bool) :
    (linkAll root rs validate).Respelled (linkAll root rs' validate) := by
  have hmembers := h.accepted [root.key]
  constructor
  · rw [nodes, nodes, root_linkAll, root_linkAll, members_linkAll, members_linkAll]
    exact .cons (.refl root) hmembers
  · rw [links_of_linked _ (isLinked_linkAll root rs validate),
      links_of_linked _ (isLinked_linkAll root rs' validate), root_linkAll, root_linkAll,
      members_linkAll, members_linkAll]
    exact Links.of_eq_of_respelled root hmembers

/-- Kinds count up to letter case only, and versions and identifiers not at all.  If the descriptors
of two batches differ in nothing else, one by one, then the check of ownership has the same outcome
for both, and the two lineages show the same at every number and give the same answers. -/
theorem build_respelled
    (name : Text)
    (ds ds' : List Json)
    (validate : Bool)
    (h : List.Forall₂ Descriptor.Respelled ds ds') :
    (build name ds validate).outcome = (build name ds' validate).outcome ∧
      SameByNumber (build name ds validate).lineage (build name ds' validate).lineage := by
  have hlinked := respelled_linkAll (respelled_resources h) (Intake.rootOf name) validate
  constructor
  · have hcycle := hlinked.cycleKeys?_eq
    rw [linkAll_eq, linkAll_eq] at hcycle
    rw [outcome_build, outcome_build, outcome_link (isLinked_addAll _ _),
      outcome_link (isLinked_addAll _ _), hcycle]
  · rw [lineage_build, lineage_build]
    exact hlinked.sameByNumber

/-- A street in capitals owns a pod; in small letters it ends in the sigma of word ends, and owns the
pod all the same. -/
theorem build_respelled_final_sigma :
    let street (kind version : String) : Json :=
      .obj [("kind", .str kind), ("apiVersion", .str version), ("name", .str "a")]
    let owner (kind : String) : Json :=
      .obj [("kind", .str kind), ("uid", .null), ("name", .str "a")]
    let metadata (kind uid : String) : Json :=
      .obj [("uid", .str uid), ("ownerReferences", .arr [owner kind])]
    let pod (kind ownerKind uid : String) : Json :=
      .obj [("kind", .str kind), ("name", .str "p"), ("metadata", metadata ownerKind uid)]
    let ds := [street "ΟΔΟΣ" "v1", pod "Pod" "ΟΔΟΣ" "1"]
    let ds' := [street "οδος" "v2", pod "POD" "Οδος" "2"]
    List.Forall₂ Descriptor.Respelled ds ds' ∧
      (build "prod" ds true).lineage.orderedEdges = [⟨0, 1, .owns⟩, ⟨1, 2, .owns⟩] ∧
      (build "prod" ds true).outcome = (build "prod" ds' true).outcome ∧
      SameByNumber (build "prod" ds true).lineage (build "prod" ds' true).lineage := by
  intro street owner metadata pod ds ds'
  have hsmall : Json.SameWord (.str "ΟΔΟΣ") (.str "οδος") :=
    .inr ⟨"ΟΔΟΣ", "οδος", rfl, rfl, by decide +kernel⟩
  have hlarge : Json.SameWord (.str "ΟΔΟΣ") (.str "Οδος") :=
    .inr ⟨"ΟΔΟΣ", "Οδος", rfl, rfl, by decide +kernel⟩
  have hpods : Json.SameWord (.str "Pod") (.str "POD") :=
    .inr ⟨"Pod", "POD", rfl, rfl, by decide +kernel⟩
  have hstreet : Descriptor.Respelled (street "ΟΔΟΣ" "v1") (street "οδος" "v2") := by
    refine .inr ⟨Json.agreeBut_of_filter_eq (by simp), ?_, .inl ?_⟩
    · simpa [street, Json.get_obj_cons] using hsmall
    · simp [street, Json.get_obj_cons, Text.ofString_inj]
  have howner : Descriptor.OwnerRespelled (owner "ΟΔΟΣ") (owner "Οδος") := by
    refine .inr ⟨Json.agreeBut_of_filter_eq (by simp), ?_⟩
    simpa [owner, Json.get_obj_cons] using hlarge
  have hmetadata : Descriptor.MetadataRespelled (metadata "ΟΔΟΣ" "1") (metadata "Οδος" "2") := by
    refine .inr ⟨Json.agreeBut_of_filter_eq (by simp), .inr ⟨[owner "ΟΔΟΣ"], [owner "Οδος"], ?_⟩⟩
    simpa [metadata, Json.get_obj_cons, Text.ofString_inj] using howner
  have hpod : Descriptor.Respelled (pod "Pod" "ΟΔΟΣ" "1") (pod "POD" "Οδος" "2") := by
    refine .inr ⟨Json.agreeBut_of_filter_eq (by simp [Text.ofString_inj]), ?_, ?_⟩
    · simpa [pod, Json.get_obj_cons] using hpods
    · simpa [pod, Json.get_obj_cons, Text.ofString_inj] using hmetadata
  have hds : List.Forall₂ Descriptor.Respelled ds ds' := .cons hstreet (.cons hpod .nil)
  have hedges :
      (build "prod" ds true).lineage.orderedEdges = [⟨0, 1, .owns⟩, ⟨1, 2, .owns⟩] := by
    decide +kernel
  exact ⟨hds, hedges, build_respelled "prod" ds ds' true hds⟩

end Lineage

end ClusterLineage
