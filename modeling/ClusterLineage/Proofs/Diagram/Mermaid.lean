import ClusterLineage.Proofs.Diagram.Drawing

/-!
# Reading Mermaid

In Mermaid a label ends at the first quotation mark, so those of its text are written by name.  This
is not undone: a label is read as one text, and a text that has the name in it already looks the
same.  The brackets around the label tell the style of the node.
-/

namespace ClusterLineage

namespace Diagram

open Reader

/-! ## Labels -/

/-- A text with its quotation marks written by name. -/
def quotesNamed (t : Text) : Text :=
  ⟨t.codes.flatMap fun c : Code => if c = '\"' then (Text.ofString "#quot;").codes else [c]⟩

theorem quotesNamed_append (s t : Text) :
    quotesNamed (s ++ t) = quotesNamed s ++ quotesNamed t := by
  simp only [quotesNamed, Text.codes_append, List.flatMap_append]
  rfl

theorem ne_quote_of_mem_quotesNamed {t : Text} {c : Code} (hc : c ∈ (quotesNamed t).codes) :
    c ≠ '\"' := by
  obtain ⟨d, -, hd⟩ := List.mem_flatMap.mp hc
  split at hd
  · have hname : ∀ c ∈ (Text.ofString "#quot;").codes, c ≠ '\"' := by decide
    exact hname c hd
  · next hquote =>
    rw [List.mem_singleton.mp hd]
    exact hquote

/-- The label of a resource is escaped as a whole: nothing between its parts needs to be. -/
theorem labelOf_mermaidCode (r : Resource) :
    labelOf mermaidCode r = quotesNamed (Label.of r).shown := by
  have hseparator : quotesNamed "\\n" = separator := by decide
  have hopening : quotesNamed "(" = "(" := by decide
  have hclosing : quotesNamed ")" = ")" := by decide
  unfold labelOf Label.of Label.shown
  cases Text.proper? r.ns with
  | none =>
    dsimp only
    rw [quotesNamed_append, quotesNamed_append, hseparator]
    rfl
  | some ns =>
    dsimp only
    simp only [quotesNamed_append, hseparator, hopening, hclosing]
    rfl

/-! ## Statements -/

/-- How a label begins, and whether it is that of the cluster. -/
def mermaidOpenings : List (Text × Bool) :=
  [("[[\"", true), ("[\"", false)]

/-- What follows a label, and the style that it tells. -/
def mermaidClosings : Bool → List (Text × NodeStyle)
  | true => [("]]\n", .root)]
  | false => [("]:::config\n", .config), ("]\n", .plain)]

/-- The arrows of edges. -/
def mermaidArrows : List (Text × EdgeType) :=
  [("-->", .owns), ("-.->", .references)]

/-- Reads the statement of a node. -/
def readMermaidNode : Reader (DrawnNode Text) := do
  literal "    "
  let index ← readNodeName
  let isRoot ← oneOf mermaidOpenings
  let label ← span (· ≠ '\"')
  literal "\""
  let style ← oneOf (mermaidClosings isRoot)
  return ⟨index, style, ⟨label⟩⟩

/-- Reads the statement of an edge. -/
def readMermaidEdge : Reader Edge := do
  literal "    "
  let source ← readNodeName
  literal " "
  let type ← oneOf mermaidArrows
  literal " "
  let target ← readNodeName
  literal "\n"
  return ⟨source, target, type⟩

/-- Reads a diagram. -/
def readMermaid : Reader (Drawing Text) := do
  literal "graph TD\n"
  let nodes ← many readMermaidNode
  literal "\n"
  let edges ← many readMermaidEdge
  literal "\n    classDef config fill:#ffffcc,stroke:#333,stroke-width:2px\n"
  return ⟨nodes, edges⟩

/-- The brackets of a node fit its style. -/
theorem nodeLine_mermaid (r : Resource) (i : Nat) :
    ∃ isRoot opening closing, (opening, isRoot) ∈ mermaidOpenings ∧
      (closing, styleOf r i) ∈ mermaidClosings isRoot ∧
      (nodeLine .mermaid r i).codes = (Text.ofString "    ").codes ++ ((nodeName i).codes ++
        (opening.codes ++ ((labelOf mermaidCode r).codes ++ ((Text.ofString "\"").codes ++
          closing.codes)))) := by
  have hdouble :
      (Text.ofString "[[\"").codes = (Text.ofString "[[").codes ++ (Text.ofString "\"").codes := by
    decide
  have hsingle :
      (Text.ofString "[\"").codes = (Text.ofString "[").codes ++ (Text.ofString "\"").codes := by
    decide
  unfold nodeLine quotedLabel
  cases styleOf r i with
  | root =>
    refine ⟨true, "[[\"", "]]\n", by decide, by decide +kernel, ?_⟩
    simp only [hdouble, Text.codes_append, List.append_assoc]
  | config =>
    refine ⟨false, "[\"", "]:::config\n", by decide, by decide +kernel, ?_⟩
    simp only [hsingle, Text.codes_append, List.append_assoc]
  | plain =>
    refine ⟨false, "[\"", "]\n", by decide, by decide +kernel, ?_⟩
    simp only [hsingle, Text.codes_append, List.append_assoc]

theorem reads_readMermaidNode (r : Resource) (i : Nat) :
    Reads readMermaidNode (nodeLine .mermaid r i).codes
      ⟨i, expectedStyle r i, quotesNamed (Label.of r).shown⟩ := by
  obtain ⟨isRoot, opening, closing, hopening, hclosing, hcodes⟩ := nodeLine_mermaid r i
  have hname : ∀ o ∈ mermaidOpenings, o.1.codes.head?.any (!isDigit ·) = true := by
    decide
  have hclosings : Distinct (mermaidClosings isRoot) := by
    cases isRoot
    · decide
    · decide
  rw [hcodes, labelOf_mermaidCode, ← styleOf_eq]
  refine (reads_literal _).bind ?_
  refine reads_readNodeName_bind (hname _ hopening) ?_
  refine (reads_oneOf (by decide) hopening).bind ?_
  refine reads_span_bind ?_ (by decide) ?_
  · intro c hc
    exact decide_eq_true (ne_quote_of_mem_quotesNamed hc)
  refine (reads_literal _).bind ?_
  exact (reads_oneOf hclosings hclosing).bind_pure rfl

theorem reads_mermaidArrow (type : EdgeType) :
    Reads (oneOf mermaidArrows) (mermaidArrow type).codes type := by
  refine reads_oneOf (by decide) ?_
  cases type
  · decide
  · decide

theorem reads_readMermaidEdge (e : Edge) :
    Reads readMermaidEdge (edgeLine .mermaid e).codes e := by
  simp only [edgeLine, Text.codes_append, List.append_assoc]
  refine (reads_literal _).bind ?_
  refine reads_readNodeName_bind (by decide) ?_
  refine (reads_literal _).bind ?_
  refine (reads_mermaidArrow e.type).bind ?_
  refine (reads_literal _).bind ?_
  rw [← List.append_nil (Text.ofString "\n").codes]
  refine reads_readNodeName_bind (by decide) ?_
  exact (reads_literal _).bind (reads_pure _)

theorem reads_readMermaid
    (g : Lineage)
    (name : Text)
    (indices : List Nat)
    (edges : List Edge) :
    Reads readMermaid (g.diagramOf .mermaid name indices edges).codes
      (g.drawingOf (fun r => quotesNamed (Label.of r).shown) indices edges) := by
  simp only [Lineage.diagramOf, opening, closing, Lineage.nodeLines_eq, Text.join,
    Text.codes_append, List.append_assoc, List.flatMap_map]
  refine (reads_literal _).bind ?_
  refine reads_many_bind (fun p => reads_readMermaidNode p.1 p.2) ?_ ?_
  · intro rest
    rw [List.append_assoc]
    refine bind_of_eq_none (literal_eq_none ?_ _)
    decide
  refine (reads_literal _).bind ?_
  refine reads_many_bind reads_readMermaidEdge ?_ ?_
  · intro rest
    refine bind_of_eq_none (literal_eq_none ?_ _)
    decide
  rw [List.map_id']
  exact (reads_literal _).bind_pure rfl

end Diagram

end ClusterLineage
