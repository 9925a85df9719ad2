import ClusterLineage.Proofs.Diagram.Dot
import ClusterLineage.Proofs.Diagram.Mermaid
import ClusterLineage.Proofs.Lineage.Session

/-!
# Diagrams cannot be forged

Whatever kinds, names and namespaces resources have, the diagram of a lineage is read back as what
was drawn: no text of a resource passes for a statement.  DOT keeps the parts of a label apart, and
Mermaid keeps its text on one line, with the quotation marks written by name.
-/

namespace ClusterLineage

open Reader Diagram

namespace Lineage

theorem readAll_dot (g : Lineage) :
    readAll (readDot "lineage") (g.diagram .dot) = some (g.drawing Label.of) := by
  rw [← drawingOf_range]
  exact readAll_eq_some (reads_readDot g "lineage" _ _)

theorem readAll_mermaid (g : Lineage) :
    readAll readMermaid (g.diagram .mermaid) =
      some (g.drawing fun r => quotesNamed (Label.of r).shown) := by
  rw [← drawingOf_range]
  exact readAll_eq_some (reads_readMermaid g "lineage" _ _)

theorem drawing_eq_of_dot_eq
    {g g' : Lineage}
    (h : g.diagram .dot = g'.diagram .dot) :
    g.drawing Label.of = g'.drawing Label.of := by
  have hread := congrArg (readAll (readDot "lineage")) h
  rwa [readAll_dot, readAll_dot, Option.some.injEq] at hread

/-- A DOT diagram is read back as the nodes in order, each with its kind, name and namespace, and the
edges; so two lineages with the same diagram agree in all of these.  A Mermaid diagram is read back
as the same nodes and edges, with labels that have their quotation marks written by name. -/
theorem diagram_recovered (g g' : Lineage) :
    readAll (readDot "lineage") (g.diagram .dot) = some (g.drawing Label.of) ∧
      readAll readMermaid (g.diagram .mermaid) =
        some (g.drawing fun r => quotesNamed (plainLabel r)) ∧
      readAll readMermaid (g.diagram .mermaid) =
        (readAll (readDot "lineage") (g.diagram .dot)).map
          (Drawing.relabel fun l => quotesNamed l.shown) ∧
      (g.diagram .dot = g'.diagram .dot →
        (∀ i : Nat, g.nodes[i]?.map Label.of = g'.nodes[i]?.map Label.of) ∧
          g.orderedEdges = g'.orderedEdges) := by
  refine ⟨readAll_dot g, ?_, ?_, ?_⟩
  · rw [readAll_mermaid]
    simp only [Label.shown_of]
  · rw [readAll_mermaid, readAll_dot, Option.map_some, relabel_drawing]
  · intro h
    have hdrawing := drawing_eq_of_dot_eq h
    refine ⟨?_, congrArg Drawing.edges hdrawing⟩
    intro i
    rw [← label_drawing g, ← label_drawing g', hdrawing]

/-- A resource tries to end its label and to draw an edge of its own.  Its unique identifier is not
shown. -/
theorem diagram_recovered_hostile :
    let hostile (uid : Option Text) : Resource :=
      { kind := "Secret\\", name := "\"];\n    N1 -> N0 [color=blue style=solid];\n",
        ns := some "\\n(\"", uid := uid }
    let g := linkAll { kind := "cluster", name := "prod" } [hostile none] false
    let g' := linkAll { kind := "cluster", name := "prod" } [hostile (some "7")] false
    g.diagram .dot = g'.diagram .dot ∧
      (∀ i : Nat, g.nodes[i]?.map Label.of = g'.nodes[i]?.map Label.of) ∧
      g.orderedEdges = g'.orderedEdges ∧ g.orderedEdges = [⟨0, 1, .owns⟩] := by
  intro hostile g g'
  have hsame : g.diagram .dot = g'.diagram .dot := by decide +kernel
  have hedges : g.orderedEdges = [⟨0, 1, .owns⟩] := by decide +kernel
  obtain ⟨hlabels, hordered⟩ := (diagram_recovered g g').2.2.2 hsame
  exact ⟨hsame, hlabels, hordered, hedges⟩

end Lineage

end ClusterLineage
