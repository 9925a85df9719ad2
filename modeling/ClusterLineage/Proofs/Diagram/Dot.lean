import ClusterLineage.Proofs.Diagram.Drawing

/-!
# Reading DOT

In DOT a label is a quoted string: a backslash comes before each backslash and each quotation mark
of its text, and a backslash before a small letter n separates the parts.  So no kind, name or
namespace ends its string, and what is read are the parts as they were.
-/

namespace ClusterLineage

namespace Diagram

open Reader

variable {s rest f : List Code} {fields : List (List Code)}

/-! ## Labels -/

/-- Reads the parts of a quoted string, up to the quotation mark that closes it. -/
def readFields : Reader (List (List Code))
  | [] => none
  | c :: cs =>
    if c = '\"' then some ([[]], cs)
    else if c ≠ '\\' then
      (readFields cs).map fun (fields, rest) => (fields.modifyHead (c :: ·), rest)
    else match cs with
      | [] => none
      | d :: cs =>
        if d = 'n' then (readFields cs).map fun (fields, rest) => ([] :: fields, rest)
        else if d = '\\' ∨ d = '\"' then
          (readFields cs).map fun (fields, rest) => (fields.modifyHead (d :: ·), rest)
        else none

/-- What stands in brackets. -/
def bracketed? : List Code → Option (List Code)
  | [] => none
  | c :: cs => if c = '(' ∧ cs.getLast? = some (Code.ofChar ')') then some cs.dropLast else none

/-- The label with some parts: a kind, a name, and a namespace in brackets if there is one. -/
def labelOfFields? : List (List Code) → Option Label
  | [kind, name] => some ⟨⟨kind⟩, ⟨name⟩, none⟩
  | [kind, name, ns] => (bracketed? ns).map fun ns => ⟨⟨kind⟩, ⟨name⟩, some ⟨ns⟩⟩
  | _ => none

/-- Reads a label, with its quotation marks. -/
def readDotLabel : Reader Label := do
  literal "\""
  let fields ← readFields
  (labelOfFields? fields).elim failure pure

theorem readFields_quote (rest : List Code) :
    readFields (Code.ofChar '\"' :: rest) = some ([[]], rest) := by
  rw [readFields.eq_def]
  exact if_pos rfl

theorem readFields_separator (hs : readFields s = some (fields, rest)) :
    readFields (separator.codes ++ s) = some ([] :: fields, rest) := by
  have hcodes : separator.codes = [Code.ofChar '\\', Code.ofChar 'n'] := by decide
  rw [hcodes]
  simp [readFields, Code.ofChar_inj, hs]

theorem readFields_dotCode (c : Code) (hs : readFields s = some (fields, rest)) :
    readFields (dotCode c ++ s) = some (fields.modifyHead (c :: ·), rest) := by
  by_cases hescaped : c = '\\' ∨ c = '\"'
  · have hn : c ≠ 'n' := by
      obtain rfl | rfl := hescaped
      · simp [Code.ofChar_inj]
      · simp [Code.ofChar_inj]
    simp [dotCode, readFields, hescaped, hn, hs, Code.ofChar_inj]
  · have hplain := not_or.mp hescaped
    have hcode : dotCode c = [c] := by simp [dotCode, hplain]
    rw [hcode, List.cons_append, List.nil_append, readFields.eq_def]
    simp [hplain, hs]

/-- Any text is read as it was, in front of the part that goes on after it. -/
theorem readFields_escaped (t : List Code) (hs : readFields s = some (f :: fields, rest)) :
    readFields (t.flatMap dotCode ++ s) = some ((t ++ f) :: fields, rest) := by
  induction t with
  | nil => exact hs
  | cons c t ih =>
    rw [List.flatMap_cons, List.append_assoc, readFields_dotCode c ih, List.modifyHead_cons,
      List.cons_append]

theorem bracketed?_eq_some (t : List Code) :
    bracketed? (Code.ofChar '(' :: (t ++ [Code.ofChar ')'])) = some t := by
  rw [bracketed?, if_pos ⟨rfl, List.getLast?_concat⟩, List.dropLast_concat]

/-- The parts of a label are read up to the quotation mark that closes it. -/
theorem readFields_labelOf (r : Resource) (rest : List Code) :
    ∃ fields, labelOfFields? fields = some (Label.of r) ∧
      readFields ((labelOf dotCode r).codes ++ Code.ofChar '\"' :: rest) = some (fields, rest) := by
  have hquote := readFields_quote rest
  unfold labelOf Label.of
  cases Text.proper? r.ns with
  | none =>
    refine ⟨[r.kind.codes, r.name.codes], rfl, ?_⟩
    have hname := readFields_escaped r.name.codes hquote
    have hkind := readFields_escaped r.kind.codes (readFields_separator hname)
    simpa using hkind
  | some ns =>
    have hclosing : dotCode ')' = [Code.ofChar ')'] := by decide
    have hopening : dotCode '(' = [Code.ofChar '('] := by decide
    refine ⟨[r.kind.codes, r.name.codes, Code.ofChar '(' :: (ns.codes ++ [Code.ofChar ')'])], ?_, ?_⟩
    · simp [labelOfFields?, bracketed?_eq_some]
    have hns := readFields_dotCode '(' (readFields_escaped ns.codes (readFields_dotCode ')' hquote))
    have hname := readFields_escaped r.name.codes (readFields_separator hns)
    have hkind := readFields_escaped r.kind.codes (readFields_separator hname)
    simpa [hopening, hclosing, Text.ofString] using hkind

theorem reads_readDotLabel (r : Resource) :
    Reads readDotLabel (quotedLabel .dot r).codes (Label.of r) := by
  have hquote : (Text.ofString "\"").codes = [Code.ofChar '\"'] := by decide
  intro rest
  obtain ⟨fields, hlabel, hfields⟩ := readFields_labelOf r rest
  simp only [quotedLabel, Text.codes_append, List.append_assoc]
  rw [readDotLabel, bind_of_eq_some (reads_literal _ _), hquote, List.singleton_append,
    bind_of_eq_some hfields, hlabel]
  rfl

/-! ## Statements -/

/-- The attributes of nodes. -/
def dotNodeStyles : List (Text × NodeStyle) :=
  [("shape=box style=filled fillcolor=lightgray", .root),
    ("shape=note style=filled fillcolor=lightyellow", .config), ("shape=ellipse", .plain)]

/-- The attributes of edges. -/
def dotEdgeStyles : List (Text × EdgeType) :=
  [("color=blue style=solid", .owns), ("color=green style=dashed", .references)]

/-- Reads the statement of a node. -/
def readDotNode : Reader (DrawnNode Label) := do
  literal "    "
  let index ← readNodeName
  literal " [label="
  let label ← readDotLabel
  literal " "
  let style ← oneOf dotNodeStyles
  literal "];\n"
  return ⟨index, style, label⟩

/-- Reads the statement of an edge. -/
def readDotEdge : Reader Edge := do
  literal "    "
  let source ← readNodeName
  literal " -> "
  let target ← readNodeName
  literal " ["
  let type ← oneOf dotEdgeStyles
  literal "];\n"
  return ⟨source, target, type⟩

/-- Reads a diagram with a name. -/
def readDot (name : Text) : Reader (Drawing Label) := do
  literal "digraph "
  literal name
  literal " \x7b\n    rankdir=TB;\n    node [fontname=\"Arial\"];\n"
  literal "    edge [fontname=\"Arial\"];\n\n"
  let nodes ← many readDotNode
  literal "\n"
  let edges ← many readDotEdge
  literal "\x7d\n"
  return ⟨nodes, edges⟩

theorem reads_dotStyle (style : NodeStyle) :
    Reads (oneOf dotNodeStyles) (dotStyle style).codes style := by
  refine reads_oneOf (by decide) ?_
  cases style
  · decide
  · decide
  · decide

theorem reads_dotEdgeStyle (type : EdgeType) :
    Reads (oneOf dotEdgeStyles) (dotEdgeStyle type).codes type := by
  refine reads_oneOf (by decide) ?_
  cases type
  · decide
  · decide

theorem reads_readDotNode (r : Resource) (i : Nat) :
    Reads readDotNode (nodeLine .dot r i).codes ⟨i, expectedStyle r i, Label.of r⟩ := by
  rw [← styleOf_eq]
  simp only [nodeLine, Text.codes_append, List.append_assoc]
  refine (reads_literal _).bind ?_
  refine reads_readNodeName_bind (by decide) ?_
  refine (reads_literal _).bind ?_
  refine (reads_readDotLabel r).bind ?_
  refine (reads_literal _).bind ?_
  refine (reads_dotStyle _).bind ?_
  exact (reads_literal _).bind_pure rfl

theorem reads_readDotEdge (e : Edge) : Reads readDotEdge (edgeLine .dot e).codes e := by
  simp only [edgeLine, Text.codes_append, List.append_assoc]
  refine (reads_literal _).bind ?_
  refine reads_readNodeName_bind (by decide) ?_
  refine (reads_literal _).bind ?_
  refine reads_readNodeName_bind (by decide) ?_
  refine (reads_literal _).bind ?_
  refine (reads_dotEdgeStyle e.type).bind ?_
  exact (reads_literal _).bind_pure rfl

theorem reads_readDot (g : Lineage) (name : Text) (indices : List Nat) (edges : List Edge) :
    Reads (readDot name) (g.diagramOf .dot name indices edges).codes
      (g.drawingOf Label.of indices edges) := by
  simp only [Lineage.diagramOf, opening, closing, Lineage.nodeLines_eq, Text.join,
    Text.codes_append, List.append_assoc, List.flatMap_map]
  refine (reads_literal _).bind ?_
  refine (reads_literal _).bind ?_
  refine (reads_literal _).bind ?_
  refine (reads_literal _).bind ?_
  refine reads_many_bind (fun p => reads_readDotNode p.1 p.2) ?_ ?_
  · intro rest
    rw [List.append_assoc]
    refine bind_of_eq_none (literal_eq_none ?_ _)
    decide
  refine (reads_literal _).bind ?_
  refine reads_many_bind reads_readDotEdge ?_ ?_
  · intro rest
    refine bind_of_eq_none (literal_eq_none ?_ _)
    decide
  rw [List.map_id']
  exact (reads_literal _).bind_pure rfl

end Diagram

end ClusterLineage
