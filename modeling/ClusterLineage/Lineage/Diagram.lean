import ClusterLineage.Lineage.Selection
import ClusterLineage.Text.Quoted

/-!
# Diagrams

A lineage, or the part of it around one resource, as text for the tools that draw graphs.  The
cluster is drawn as a box, configuration apart from other resources, ownership with solid lines and
references with dashed ones.  A node is called by its number, so it has the same name in every
diagram of a lineage.
-/

namespace ClusterLineage

/-- A language for diagrams. -/
inductive DiagramFormat where
  | dot
  | mermaid
  deriving DecidableEq, Repr

namespace DiagramFormat

/-- The name of a format. -/
def name : DiagramFormat → Text
  | dot => "dot"
  | mermaid => "mermaid"

/-- All formats. -/
def all : List DiagramFormat := [dot, mermaid]

/-- The format that a text names in its exact spelling. -/
def ofName? (text : Text) : Option DiagramFormat :=
  all.find? (·.name == text)

/-- What to say of a text that names no format. -/
def unknownMessage (text : Text) : Text :=
  "unknown export format " ++ Text.quoted text ++ ", expected one of " ++
    Text.intercalate ", " (all.map name)

end DiagramFormat

/-- How a node is drawn. -/
inductive NodeStyle where
  | root
  | config
  | plain
  deriving DecidableEq, Repr

namespace Diagram

/-- The text between the lines of a label. -/
def separator : Text := "\\n"

/-- The lines of a label: kind, name, and the namespace in brackets if there is one. -/
def labelOf (escape : Code → List Code) (r : Resource) : Text :=
  let escaped (t : Text) : Text := ⟨t.codes.flatMap escape⟩
  let label := escaped r.kind ++ separator ++ escaped r.name
  match Text.proper? r.ns with
  | none => label
  | some ns => label ++ separator ++ "(" ++ escaped ns ++ ")"

/-- The label of a resource, without any escapes. -/
def plainLabel (r : Resource) : Text :=
  labelOf (fun c => [c]) r

/-- How the node with a number is drawn. -/
def styleOf (r : Resource) (i : Nat) : NodeStyle :=
  if i = 0 then .root else if r.isSensitive then .config else .plain

/-- The name of a node. -/
def nodeName (i : Nat) : Text :=
  "N" ++ toString i

/-- A code of a label in DOT: backslashes and quotation marks are escaped. -/
def dotCode (c : Code) : List Code :=
  if c = '\\' || c = '\"' then ['\\', c] else [c]

/-- A code of a label in Mermaid: quotation marks are written by name. -/
def mermaidCode (c : Code) : List Code :=
  if c = '\"' then (Text.ofString "#quot;").codes else [c]

/-- The attributes of a node in DOT. -/
def dotStyle : NodeStyle → Text
  | .root => "shape=box style=filled fillcolor=lightgray"
  | .config => "shape=note style=filled fillcolor=lightyellow"
  | .plain => "shape=ellipse"

/-- The attributes of an edge in DOT. -/
def dotEdgeStyle : EdgeType → Text
  | .owns => "color=blue style=solid"
  | .references => "color=green style=dashed"

/-- The arrow of an edge in Mermaid. -/
def mermaidArrow : EdgeType → Text
  | .owns => "-->"
  | .references => "-.->"

/-- The label of a node in a format, between quotation marks. -/
def quotedLabel (format : DiagramFormat) (r : Resource) : Text :=
  let escape := match format with
    | .dot => dotCode
    | .mermaid => mermaidCode
  "\"" ++ labelOf escape r ++ "\""

/-- The statement of a node. -/
def nodeLine (format : DiagramFormat) (r : Resource) (i : Nat) : Text :=
  let label := quotedLabel format r
  let style := styleOf r i
  match format with
  | .dot => "    " ++ nodeName i ++ " [label=" ++ label ++ " " ++ dotStyle style ++ "];\n"
  | .mermaid =>
    match style with
    | .root => "    " ++ nodeName i ++ "[[" ++ label ++ "]]\n"
    | .config => "    " ++ nodeName i ++ "[" ++ label ++ "]:::config\n"
    | .plain => "    " ++ nodeName i ++ "[" ++ label ++ "]\n"

/-- The statement of an edge. -/
def edgeLine (format : DiagramFormat) (e : Edge) : Text :=
  match format with
  | .dot =>
    "    " ++ nodeName e.source ++ " -> " ++ nodeName e.target ++ " [" ++ dotEdgeStyle e.type ++
      "];\n"
  | .mermaid =>
    "    " ++ nodeName e.source ++ " " ++ mermaidArrow e.type ++ " " ++ nodeName e.target ++ "\n"

/-- What stands before the nodes.  In DOT a diagram has a name. -/
def opening (name : Text) : DiagramFormat → Text
  | .dot =>
    "digraph " ++ name ++ " \x7b\n    rankdir=TB;\n    node [fontname=\"Arial\"];\n" ++
      "    edge [fontname=\"Arial\"];\n\n"
  | .mermaid => "graph TD\n"

/-- What stands after the edges. -/
def closing : DiagramFormat → Text
  | .dot => "\x7d\n"
  | .mermaid => "\n    classDef config fill:#ffffcc,stroke:#333,stroke-width:2px\n"

end Diagram

namespace Lineage

/-- The statements of nodes, given by their numbers. -/
def nodeLines (g : Lineage) (format : DiagramFormat) (indices : List Nat) : List Text :=
  indices.filterMap fun i => g.nodes[i]?.map fun r => Diagram.nodeLine format r i

/-- A diagram of some nodes and edges. -/
def diagramOf (g : Lineage) (format : DiagramFormat) (name : Text) (indices : List Nat)
    (edges : List Edge) : Text :=
  Diagram.opening name format ++ Text.join (g.nodeLines format indices) ++ "\n" ++
    Text.join (edges.map (Diagram.edgeLine format)) ++ Diagram.closing format

/-- The diagram of the whole lineage. -/
def diagram (g : Lineage) (format : DiagramFormat) : Text :=
  g.diagramOf format "lineage" (List.range g.size) g.orderedEdges

/-- The diagram of what is related to the resource with a key; it is empty for an unknown key. -/
def subgraphDiagram (g : Lineage) (format : DiagramFormat) (key : Text) : Text :=
  g.diagramOf format "lineage_subgraph" (g.subgraphNodes key) (g.subgraphEdges key)

/-- The diagram around a key if one is given, or else of the whole lineage. -/
def draw (g : Lineage) (format : DiagramFormat) : Option Text → Text
  | some key => g.subgraphDiagram format key
  | none => g.diagram format

end Lineage

end ClusterLineage
