import ClusterLineage.Lineage.Diagram
import ClusterLineage.Proofs.Diagram.Reader
import ClusterLineage.Proofs.Kind
import Mathlib.Data.List.Induction

/-!
# Drawings

What a diagram says, in whatever language it is written: its nodes in order, each with its number,
its style and its label, and then its edges.  How much of a resource a label tells depends on the
language.
-/

namespace ClusterLineage

/-- A node as it is drawn. -/
structure DrawnNode (α : Type) where
  index : Nat
  style : NodeStyle
  label : α
  deriving DecidableEq, Repr

/-- What a diagram says. -/
structure Drawing (α : Type) where
  nodes : List (DrawnNode α)
  edges : List Edge
  deriving DecidableEq, Repr

/-- A drawing with other labels in the place of its own. -/
def Drawing.relabel {α β : Type} (f : α → β) (d : Drawing α) : Drawing β where
  nodes := d.nodes.map fun n => ⟨n.index, n.style, f n.label⟩
  edges := d.edges

/-- What a label tells of a resource.  An empty namespace is none. -/
structure Label where
  kind : Text
  name : Text
  ns : Option Text
  deriving DecidableEq, Repr

namespace Label

/-- All that the label of a resource should tell. -/
def of (r : Resource) : Label where
  kind := r.kind
  name := r.name
  ns := Text.proper? r.ns

/-- A label on one line, with a backslash and a small letter n between its parts. -/
def shown (l : Label) : Text :=
  match l.ns with
  | none => l.kind ++ "\\n" ++ l.name
  | some ns => l.kind ++ "\\n" ++ l.name ++ "\\n" ++ "(" ++ ns ++ ")"

theorem shown_of (r : Resource) : (of r).shown = Diagram.plainLabel r := by
  have hplain (t : Text) : (⟨t.codes.flatMap fun c => [c]⟩ : Text) = t := by
    rw [List.flatMap_singleton']
  unfold shown Diagram.plainLabel Diagram.labelOf
  simp only [hplain]
  rfl

end Label

namespace Diagram

variable {α β : Type} {t u : List Code} {b : β}

/-- How a resource with a number should be drawn: the cluster apart, and configuration apart from
other resources. -/
def expectedStyle (r : Resource) (i : Nat) : NodeStyle :=
  if i = 0 then .root
  else if Text.lower r.kind ∈ [Text.ofString "configmap", Text.ofString "secret"] then .config
  else .plain

theorem isSensitive_iff (r : Resource) :
    r.isSensitive = true ↔
      Text.lower r.kind ∈ [Text.ofString "configmap", Text.ofString "secret"] := by
  have hkind {k : Kind} {t : Text} (hname : Text.lower k.name = t) :
      Kind.ofName? r.kind = some k ↔ Text.lower r.kind = t := by
    rw [Kind.ofName?_eq_some_iff, hname, eq_comm]
  have hconfigMap := @hkind .configMap "configmap" (by decide +kernel)
  have hsecret := @hkind .secret "secret" (by decide +kernel)
  rw [List.mem_cons, List.mem_singleton, ← hconfigMap, ← hsecret, Resource.isSensitive]
  split
  · next h => exact iff_of_true rfl (.inl h)
  · next h => exact iff_of_true rfl (.inr h)
  · next hnot hnot' =>
    refine iff_of_false Bool.false_ne_true ?_
    intro h
    exact h.elim hnot hnot'

theorem styleOf_eq (r : Resource) (i : Nat) : styleOf r i = expectedStyle r i := by
  simp only [styleOf, expectedStyle, isSensitive_iff]

/-- Reads the name of a node for its number. -/
def readNodeName : Reader Nat := do
  Reader.literal "N"
  Reader.number

theorem reads_readNodeName_bind
    {i : Nat}
    {f : Nat → Reader β}
    (ht : t.head?.any (!Reader.isDigit ·) = true)
    (hf : Reader.Reads (f i) (t ++ u) b) :
    Reader.Reads (readNodeName >>= f) ((nodeName i).codes ++ (t ++ u)) b := by
  rw [readNodeName, bind_assoc, nodeName, Text.codes_append, List.append_assoc]
  exact (Reader.reads_literal _).bind (Reader.reads_number_bind ht hf)

end Diagram

namespace Lineage

variable {α : Type}

/-- The resources with some numbers, each with its number. -/
def numberedAt (g : Lineage) (indices : List Nat) : List (Resource × Nat) :=
  indices.filterMap fun i => g.nodes[i]?.map (·, i)

theorem numberedAt_range (g : Lineage) :
    g.numberedAt (List.range g.size) = g.nodes.zipIdx := by
  rw [numberedAt, size]
  induction g.nodes using List.reverseRecOn with
  | nil => rfl
  | append_singleton rs r ih =>
    have hbefore : ∀ i ∈ List.range rs.length,
        (rs ++ [r])[i]?.map (·, i) = rs[i]?.map (·, i) := by
      intro i hi
      rw [List.getElem?_append_left (List.mem_range.mp hi)]
    rw [List.length_append, List.length_singleton, List.range_succ, List.filterMap_append,
      List.filterMap_congr hbefore, ih, List.zipIdx_append]
    simp

theorem nodeLines_eq (g : Lineage) (format : DiagramFormat) (indices : List Nat) :
    g.nodeLines format indices =
      (g.numberedAt indices).map fun p => Diagram.nodeLine format p.1 p.2 := by
  simp only [nodeLines, numberedAt, List.map_filterMap, Option.map_map, Function.comp_def]

/-- What a diagram of some nodes and edges should say. -/
def drawingOf (g : Lineage) (label : Resource → α) (indices : List Nat) (edges : List Edge) :
    Drawing α where
  nodes := (g.numberedAt indices).map fun p => ⟨p.2, Diagram.expectedStyle p.1 p.2, label p.1⟩
  edges := edges

/-- What the diagram of a whole lineage should say. -/
def drawing (g : Lineage) (label : Resource → α) : Drawing α where
  nodes := g.nodes.zipIdx.map fun p => ⟨p.2, Diagram.expectedStyle p.1 p.2, label p.1⟩
  edges := g.orderedEdges

theorem drawingOf_range (g : Lineage) (label : Resource → α) :
    g.drawingOf label (List.range g.size) g.orderedEdges = g.drawing label := by
  rw [drawingOf, drawing, numberedAt_range]

theorem relabel_drawing {β : Type} (g : Lineage) (label : Resource → α) (f : α → β) :
    (g.drawing label).relabel f = g.drawing fun r => f (label r) := by
  simp only [drawing, Drawing.relabel, List.map_map, Function.comp_def]

/-- The labels of a drawing can be looked up by number. -/
theorem label_drawing (g : Lineage) (label : Resource → α) (i : Nat) :
    (g.drawing label).nodes[i]?.map DrawnNode.label = g.nodes[i]?.map label := by
  simp [drawing, List.getElem?_zipIdx, Function.comp_def]

end Lineage

end ClusterLineage
