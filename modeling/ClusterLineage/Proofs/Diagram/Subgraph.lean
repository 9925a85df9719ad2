import ClusterLineage.Proofs.Diagram.Recovered
import ClusterLineage.Proofs.Lineage.Component

/-!
# Diagrams of a part

The diagram around a resource is the diagram of the whole lineage, cut down to what is related to
the resource: of the statements of nodes those remain whose nodes are related, and of the statements
of edges those that lead between such nodes.  Nothing is numbered anew and nothing changes its
place.
-/

namespace ClusterLineage

open Reader Diagram

/-- The statements of a diagram, each with the node or the edge that it is about. -/
structure Statements where
  nodes : List (Nat × Text)
  edges : List (Edge × Text)

/-- The statements about some nodes and the edges between them. -/
def Statements.cut (keep : Nat → Bool) (s : Statements) : Statements where
  nodes := s.nodes.filter fun n => keep n.1
  edges := s.edges.filter fun e => keep e.1.source && keep e.1.target

/-- The diagram that some statements make up. -/
def Statements.text (format : DiagramFormat) (name : Text) (s : Statements) : Text :=
  opening name format ++ Text.join (s.nodes.map Prod.snd) ++ "\n" ++
    Text.join (s.edges.map Prod.snd) ++ closing format

/-- The part of a drawing that shows some nodes and the edges between them. -/
def Drawing.cut {α : Type} (keep : Nat → Bool) (d : Drawing α) : Drawing α where
  nodes := d.nodes.filter fun n => keep n.index
  edges := d.edges.filter fun e => keep e.source && keep e.target

namespace Lineage

variable {g : Lineage} {key : Text} {i x : Nat} {format : DiagramFormat}

/-- The statements of the diagram of a whole lineage. -/
def statements (g : Lineage) (format : DiagramFormat) : Statements where
  nodes := g.nodes.zipIdx.map fun p => (p.2, nodeLine format p.1 p.2)
  edges := g.orderedEdges.map fun e => (e, edgeLine format e)

/-- Whether a node is one of those that are listed as related to a key. -/
def relates (g : Lineage) (key : Text) (x : Nat) : Bool :=
  (g.keyAt? x).any (g.relatedKeys key).contains

/-- The statements about what is related to a key. -/
def statementsAbout (g : Lineage) (format : DiagramFormat) (key : Text) : Statements :=
  (g.statements format).cut (g.relates key)

theorem relates_iff :
    g.relates key x = true ↔ ∃ k, g.keyAt? x = some k ∧ k ∈ g.relatedKeys key := by
  rw [relates, Option.any_eq_true]
  simp only [List.contains_iff_mem]

/-- The nodes of the part around a key are those whose keys are listed as related. -/
theorem mem_subgraphNodes : x ∈ g.subgraphNodes key ↔ g.relates key x = true := by
  rw [relates_iff, subgraphNodes, relatedKeys]
  cases g.indexOf? key with
  | none => simp
  | some i =>
    constructor
    · intro hx
      obtain ⟨⟨hsize, -⟩, -⟩ := mem_relatedTo.mp hx |>.imp_left mem_withReferences.mp
      obtain ⟨k, hk⟩ := exists_keyAt? hsize
      exact ⟨k, hk, (mem_sortedKeys_iff hk).mpr hx⟩
    · rintro ⟨k, hk, hlisted⟩
      exact (mem_sortedKeys_iff hk).mp hlisted

theorem zero_not_mem_subgraphNodes (g : Lineage) (key : Text) : 0 ∉ g.subgraphNodes key := by
  unfold subgraphNodes
  split
  · intro h
    exact (mem_relatedTo.mp h).2 rfl
  · exact List.not_mem_nil

/-- The nodes of the part come in the order of the whole. -/
theorem subgraphNodes_eq_filter (g : Lineage) (key : Text) :
    g.subgraphNodes key = (List.range g.size).filter (g.relates key) := by
  have hmem : g.subgraphNodes key = (List.range g.size).filter fun x => x ∈ g.subgraphNodes key := by
    unfold subgraphNodes
    split
    · exact relatedTo_eq_filter g _
    · simp
  rw [hmem]
  simp only [mem_subgraphNodes, Bool.decide_eq_true]

theorem subgraphEdges_eq_filter (g : Lineage) (key : Text) :
    g.subgraphEdges key =
      g.orderedEdges.filter fun e => g.relates key e.source && g.relates key e.target := by
  simp only [subgraphEdges, List.contains_eq_mem, mem_subgraphNodes, Bool.decide_eq_true]

theorem numberedAt_filter (g : Lineage) (keep : Nat → Bool) :
    g.numberedAt ((List.range g.size).filter keep) =
      g.nodes.zipIdx.filter fun p => keep p.2 := by
  rw [← numberedAt_range, numberedAt, numberedAt, List.filterMap_filter, List.filter_filterMap]
  apply List.filterMap_congr
  intro i _
  cases g.nodes[i]? with
  | none => simp
  | some r => simp [Option.filter_some]

/-! ## Statements -/

theorem diagram_eq_text (g : Lineage) (format : DiagramFormat) :
    g.diagram format = (g.statements format).text format "lineage" := by
  rw [diagram, diagramOf, nodeLines_eq, numberedAt_range, Statements.text, statements,
    List.map_map, List.map_map]
  rfl

theorem subgraphDiagram_eq_text (g : Lineage) (format : DiagramFormat) (key : Text) :
    g.subgraphDiagram format key =
      (g.statementsAbout format key).text format "lineage_subgraph" := by
  rw [subgraphDiagram, diagramOf, nodeLines_eq, subgraphNodes_eq_filter, numberedAt_filter,
    subgraphEdges_eq_filter, Statements.text, statementsAbout, Statements.cut, statements,
    List.filter_map, List.filter_map, List.map_map, List.map_map]
  rfl

/-! ## Drawings -/

theorem drawingOf_subgraph {α : Type} (g : Lineage) (key : Text) (label : Resource → α) :
    g.drawingOf label (g.subgraphNodes key) (g.subgraphEdges key) =
      (g.drawing label).cut (g.relates key) := by
  rw [drawingOf, drawing, Drawing.cut, subgraphNodes_eq_filter, numberedAt_filter,
    subgraphEdges_eq_filter, List.filter_map]
  rfl

theorem readAll_subgraph_dot (g : Lineage) (key : Text) :
    readAll (readDot "lineage_subgraph") (g.subgraphDiagram .dot key) =
      some ((g.drawing Label.of).cut (g.relates key)) := by
  rw [← drawingOf_subgraph]
  exact readAll_eq_some (reads_readDot g "lineage_subgraph" _ _)

theorem readAll_subgraph_mermaid (g : Lineage) (key : Text) :
    readAll readMermaid (g.subgraphDiagram .mermaid key) =
      some ((g.drawing fun r => quotesNamed (Label.of r).shown).cut (g.relates key)) := by
  rw [← drawingOf_subgraph]
  exact readAll_eq_some (reads_readMermaid g "lineage_subgraph" _ _)

/-! ## Faithful cuts -/

/-- The diagram around a key is written with the statements of the whole diagram that are about what
is related to the key.  All ends of its edges are among its nodes, and the cluster is not. -/
structure CutFaithfully (g : Lineage) (format : DiagramFormat) (key : Text) : Prop where
  whole : g.diagram format = (g.statements format).text format "lineage"
  part : g.subgraphDiagram format key = (g.statementsAbout format key).text format "lineage_subgraph"
  declared : ∀ e ∈ (g.statementsAbout format key).edges,
    e.1.source ∈ (g.statementsAbout format key).nodes.map Prod.fst ∧
      e.1.target ∈ (g.statementsAbout format key).nodes.map Prod.fst
  root_not_declared : 0 ∉ (g.statementsAbout format key).nodes.map Prod.fst

theorem map_fst_statementsAbout (g : Lineage) (format : DiagramFormat) (key : Text) :
    (g.statementsAbout format key).nodes.map Prod.fst = g.subgraphNodes key := by
  have hnumbers : g.nodes.zipIdx.map Prod.snd = List.range g.size := by
    rw [List.zipIdx_map_snd, List.range_eq_range', size]
  rw [subgraphNodes_eq_filter, ← hnumbers, List.filter_map, statementsAbout, Statements.cut,
    statements, List.filter_map, List.map_map]
  rfl

theorem cutFaithfully (g : Lineage) (format : DiagramFormat) (key : Text) :
    g.CutFaithfully format key where
  whole := diagram_eq_text g format
  part := subgraphDiagram_eq_text g format key
  declared := by
    intro e he
    obtain ⟨-, hends⟩ := List.mem_filter.mp he
    rwa [Bool.and_eq_true, ← mem_subgraphNodes, ← mem_subgraphNodes,
      ← map_fst_statementsAbout g format key] at hends
  root_not_declared := by
    rw [map_fst_statementsAbout]
    exact zero_not_mem_subgraphNodes g key

theorem statementsAbout_of_unknown (hkey : Text.lower key ∉ g.keys) :
    g.statementsAbout format key = ⟨[], []⟩ := by
  have hindex : g.indexOf? key = none := by
    rw [indexOf?, List.idxOf?_eq_none_iff]
    exact hkey
  have hnone : g.relates key = fun _ => false := by
    funext x
    have hx : x ∉ g.subgraphNodes key := by simp [subgraphNodes, hindex]
    rwa [mem_subgraphNodes, Bool.not_eq_true] at hx
  rw [statementsAbout, Statements.cut, hnone]
  simp

/-- Resources that ownership connects have the same diagram around them. -/
theorem subgraphDiagram_eq_of_sameComponent
    {a b : Text} {i j : Nat}
    (hg : g.isLinked = true)
    (hi : i ≠ 0)
    (ha : g.keyAt? i = some (Text.lower a))
    (hb : g.keyAt? j = some (Text.lower b))
    (hij : g.SameComponent i j) :
    g.subgraphDiagram format a = g.subgraphDiagram format b := by
  have hanswers := answersRelated hg hi ha
  have hanswers' := answersRelated hg (hij.ne_zero hi) hb
  have hsame := related_eq_of_sameComponent hij
  have hnodes : g.subgraphNodes a = g.subgraphNodes b := by
    rw [hanswers.nodes, hanswers'.nodes, hsame]
  have hedges : g.subgraphEdges a = g.subgraphEdges b := by
    rw [hanswers.edges, hanswers'.edges, hsame]
  rw [subgraphDiagram, subgraphDiagram, hnodes, hedges]

/-- After resources have been added to a cluster and linked, with or without a check of ownership,
the diagram around any key, in both languages, is the diagram of the whole lineage cut down to the
statements about what is related to the key, and it is read back as a cut of what the whole diagram
is read back as.  It is the same text for all resources of a component of ownership, and it has no
statements for an unknown key. -/
theorem subgraph_diagram_cut (root : Resource) (rs : List Resource) (validate : Bool) :
    let g := linkAll root rs validate
    (∀ format key, g.CutFaithfully format key) ∧
      (∀ key, ∃ d, readAll (readDot "lineage") (g.diagram .dot) = some d ∧
        readAll (readDot "lineage_subgraph") (g.subgraphDiagram .dot key) =
          some (d.cut (g.relates key))) ∧
      (∀ key, ∃ d, readAll readMermaid (g.diagram .mermaid) = some d ∧
        readAll readMermaid (g.subgraphDiagram .mermaid key) = some (d.cut (g.relates key))) ∧
      (∀ format a b i j, i ≠ 0 → g.keyAt? i = some (Text.lower a) →
        g.keyAt? j = some (Text.lower b) → g.SameComponent i j →
          g.subgraphDiagram format a = g.subgraphDiagram format b) ∧
      ∀ format key, Text.lower key ∉ g.keys → g.statementsAbout format key = ⟨[], []⟩ := by
  intro g
  refine ⟨?_, ?_, ?_, ?_, ?_⟩
  · intro format key
    exact cutFaithfully g format key
  · intro key
    exact ⟨_, readAll_dot g, readAll_subgraph_dot g key⟩
  · intro key
    exact ⟨_, readAll_mermaid g, readAll_subgraph_mermaid g key⟩
  · intro format a b i j hi ha hb hij
    exact subgraphDiagram_eq_of_sameComponent (isLinked_linkAll root rs validate) hi ha hb hij
  · intro format key hkey
    exact statementsAbout_of_unknown hkey

/-- Two pods own each other, one of them names a config map, and another config map stands apart.
The diagrams around the pods are the same and show no more than three nodes; a key that no node has
leads to an empty diagram. -/
theorem subgraph_diagram_cut_around_cycle :
    let g := linkAll { kind := "cluster", name := "prod" }
      [{ kind := "Pod", name := "a", owners := [{ kind := "pod", name := "B" }] },
        { kind := "ConfigMap", name := "apart" },
        { kind := "Pod", name := "b", owners := [{ kind := "pod", name := "a" }],
          relations := [{ kind := "ConfigMap", name := "cfg" }] },
        { kind := "ConfigMap", name := "cfg" }] false
    1 ≠ 0 ∧ g.keyAt? 1 = some (Text.lower "POD/A") ∧ g.keyAt? 3 = some (Text.lower "pod/b") ∧
      g.SameComponent 1 3 ∧ Text.lower "pod/gone" ∉ g.keys ∧
      g.CutFaithfully .dot "POD/A" ∧
      (g.statementsAbout .dot "POD/A").nodes.map Prod.fst = [1, 3, 4] ∧
      g.subgraphDiagram .dot "POD/A" = g.subgraphDiagram .dot "pod/b" ∧
      g.statementsAbout .mermaid "pod/gone" = ⟨[], []⟩ := by
  intro g
  have hfirst : g.keyAt? 1 = some (Text.lower "POD/A") := by decide +kernel
  have hsecond : g.keyAt? 3 = some (Text.lower "pod/b") := by decide +kernel
  have hgone : Text.lower "pod/gone" ∉ g.keys := by decide +kernel
  have hdown : (⟨1, 3, .owns⟩ : Edge) ∈ g.edges := by decide +kernel
  have hshown : (g.statementsAbout .dot "POD/A").nodes.map Prod.fst = [1, 3, 4] := by
    rw [map_fst_statementsAbout]
    decide +kernel
  have hsame : g.SameComponent 1 3 := .single ⟨by decide, by decide, .inl hdown⟩
  obtain ⟨hcut, -, -, hcomponent, hunknown⟩ := subgraph_diagram_cut _ _ false
  exact ⟨by decide, hfirst, hsecond, hsame, hgone, hcut .dot "POD/A", hshown,
    hcomponent .dot "POD/A" "pod/b" 1 3 (by decide) hfirst hsecond hsame,
    hunknown .mermaid "pod/gone" hgone⟩

end Lineage

end ClusterLineage
