import ClusterLineage.Command.Run
import ClusterLineage.Proofs.Descriptor.Unicode
import ClusterLineage.Proofs.Lineage.Session
import ClusterLineage.Proofs.Lineage.SortedKeys
import ClusterLineage.Proofs.Report
import ClusterLineage.Proofs.Text.Encoded

/-!
# Views are printed to their end

Printing stops at the first piece of a view that has surrogates.  If the resources of a lineage are
named, and refer to others, by texts without surrogates, then no view has such a piece, so all of it
is printed: what comes out is the text of the view without the control sequences in it.
-/

namespace ClusterLineage

variable {g : Lineage} {format : DiagramFormat} {i : Nat} {k : Text}

/-- Pieces without surrogates are all printed, without the control sequences in them. -/
theorem Command.printed_of_isUnicode
    {pieces : List Text}
    (h : ∀ p ∈ pieces, p.IsUnicode) :
    (printed pieces).error? = none ∧
      Text.ofString (printed pieces).output =
        Text.join (pieces.map Text.withoutControlSequences) := by
  induction pieces with
  | nil => exact ⟨rfl, rfl⟩
  | cons piece pieces ih =>
    obtain ⟨hpiece, hpieces⟩ := List.forall_mem_cons.mp h
    obtain ⟨hnone, houtput⟩ := ih hpieces
    obtain ⟨s, hs⟩ := hpiece.withoutControlSequences.exists_eq_ofString
    have hprinted : printed (piece :: pieces) =
        { printed pieces with output := s ++ (printed pieces).output } := by
      rw [printed, hs, Text.encode_ofString]
    rw [hprinted]
    refine ⟨hnone, ?_⟩
    rw [Text.ofString_append, houtput, List.map_cons, hs]
    rfl

/-! ## Pieces of diagrams -/

namespace Diagram

theorem isSurrogate_of_mem_dotCode
    {c d : Code}
    (hc : c.isSurrogate = false)
    (hd : d ∈ dotCode c) :
    d.isSurrogate = false := by
  unfold dotCode at hd
  split at hd
  · rcases List.mem_cons.mp hd with rfl | hd
    · exact Code.isSurrogate_ofChar _
    · rwa [List.mem_singleton.mp hd]
  · rwa [List.mem_singleton.mp hd]

theorem isSurrogate_of_mem_mermaidCode
    {c d : Code}
    (hc : c.isSurrogate = false)
    (hd : d ∈ mermaidCode c) :
    d.isSurrogate = false := by
  unfold mermaidCode at hd
  split at hd
  · exact Text.isUnicode_ofString _ d hd
  · rwa [List.mem_singleton.mp hd]

theorem isUnicode_labelOf
    {r : Resource} {escape : Code → List Code}
    (hescape : ∀ c, c.isSurrogate = false → ∀ d ∈ escape c, d.isSurrogate = false)
    (hr : r.IsUnicode) :
    (labelOf escape r).IsUnicode := by
  have hescaped : ∀ t : Text, t.IsUnicode → (⟨t.codes.flatMap escape⟩ : Text).IsUnicode := by
    intro t ht d hd
    obtain ⟨c, hc, hdc⟩ := List.mem_flatMap.mp hd
    exact hescape c (ht c hc) d hdc
  have hseparator : separator.IsUnicode := Text.isUnicode_ofString _
  have hkind := hescaped _ hr.kind
  have hname := hescaped _ hr.name
  unfold labelOf
  dsimp only
  split
  · simp [hkind, hseparator, hname]
  · next ns hproper =>
    have hns := hescaped ns (hr.ns ns (Option.mem_filter_iff.mp hproper).1)
    simp [hkind, hseparator, hname, hns]

theorem isUnicode_quotedLabel
    {r : Resource}
    (hr : r.IsUnicode)
    (format : DiagramFormat) :
    (quotedLabel format r).IsUnicode := by
  have hdot := isUnicode_labelOf (fun _ hc _ => isSurrogate_of_mem_dotCode hc) hr
  have hmermaid := isUnicode_labelOf (fun _ hc _ => isSurrogate_of_mem_mermaidCode hc) hr
  cases format with
  | dot => simp [quotedLabel, hdot]
  | mermaid => simp [quotedLabel, hmermaid]

@[simp]
theorem isUnicode_nodeName (i : Nat) : (nodeName i).IsUnicode := by
  simp [nodeName]

@[simp]
theorem isUnicode_dotStyle (style : NodeStyle) : (dotStyle style).IsUnicode := by
  cases style
  all_goals exact Text.isUnicode_ofString _

@[simp]
theorem isUnicode_dotEdgeStyle (type : EdgeType) : (dotEdgeStyle type).IsUnicode := by
  cases type
  all_goals exact Text.isUnicode_ofString _

@[simp]
theorem isUnicode_mermaidArrow (type : EdgeType) : (mermaidArrow type).IsUnicode := by
  cases type
  all_goals exact Text.isUnicode_ofString _

theorem isUnicode_nodeLine
    {r : Resource}
    (hr : r.IsUnicode)
    (format : DiagramFormat) (i : Nat) :
    (nodeLine format r i).IsUnicode := by
  have hlabel := isUnicode_quotedLabel hr
  unfold nodeLine
  cases format with
  | dot => simp [hlabel]
  | mermaid =>
    dsimp only
    split
    all_goals simp [hlabel]

theorem isUnicode_edgeLine (format : DiagramFormat) (e : Edge) :
    (edgeLine format e).IsUnicode := by
  cases format
  all_goals simp [edgeLine]

theorem isUnicode_opening
    {name : Text}
    (hname : name.IsUnicode)
    (format : DiagramFormat) :
    (opening name format).IsUnicode := by
  cases format
  all_goals simp [opening, hname]

theorem isUnicode_closing (format : DiagramFormat) : (closing format).IsUnicode := by
  cases format
  all_goals exact Text.isUnicode_ofString _

end Diagram

/-! ## Pieces of views -/

namespace Lineage

variable {s : List Nat} {u : Unresolved}

theorem isUnicode_of_keyAt?
    (hg : ∀ r ∈ g.nodes, r.IsUnicode)
    (hk : g.keyAt? i = some k) :
    k.IsUnicode := by
  obtain ⟨r, hr, rfl⟩ := keyAt?_eq_some_iff.mp hk
  exact (hg r (List.mem_of_getElem? hr)).key

theorem isUnicode_of_mem_sortedKeys
    (hg : ∀ r ∈ g.nodes, r.IsUnicode)
    (hk : k ∈ g.sortedKeys s) :
    k.IsUnicode := by
  obtain ⟨i, -, hi⟩ := mem_sortedKeys.mp hk
  exact isUnicode_of_keyAt? hg hi

theorem isUnicode_diagramOf
    {name : Text}
    (hg : ∀ r ∈ g.nodes, r.IsUnicode)
    (hname : name.IsUnicode)
    (format : DiagramFormat) (indices : List Nat) (edges : List Edge) :
    (g.diagramOf format name indices edges).IsUnicode := by
  have hnodes : (Text.join (g.nodeLines format indices)).IsUnicode := by
    apply Text.isUnicode_join
    intro t ht
    obtain ⟨i, -, hi⟩ := List.mem_filterMap.mp ht
    obtain ⟨r, hr, rfl⟩ := Option.map_eq_some_iff.mp hi
    exact Diagram.isUnicode_nodeLine (hg r (List.mem_of_getElem? hr)) format i
  have hedges : (Text.join (edges.map (Diagram.edgeLine format))).IsUnicode :=
    Text.isUnicode_join (List.forall_mem_map.mpr fun e _ => Diagram.isUnicode_edgeLine format e)
  simp [diagramOf, Diagram.isUnicode_opening hname, hnodes, hedges, Diagram.isUnicode_closing]

theorem isUnicode_draw
    (hg : ∀ r ∈ g.nodes, r.IsUnicode)
    (format : DiagramFormat) (key : Option Text) :
    (g.draw format key).IsUnicode := by
  cases key with
  | none => exact isUnicode_diagramOf hg (Text.isUnicode_ofString _) _ _ _
  | some key => exact isUnicode_diagramOf hg (Text.isUnicode_ofString _) _ _ _

theorem isUnicode_key_of_mem_impactOf
    {entry : Impact}
    (hg : ∀ r ∈ g.nodes, r.IsUnicode)
    (hentry : entry ∈ g.impactOf k) :
    entry.key.IsUnicode := by
  have hentries : ∀ (reason : ImpactReason) (indices : List Nat),
      entry ∈ (indices.filterMap g.keyAt?).map (Impact.mk · reason) → entry.key.IsUnicode := by
    intro reason indices hmem
    obtain ⟨key, hkey, rfl⟩ := List.mem_map.mp hmem
    obtain ⟨i, -, hi⟩ := List.mem_filterMap.mp hkey
    exact isUnicode_of_keyAt? hg hi
  unfold impactOf at hentry
  split at hentry
  · simp at hentry
  · rw [Text.sortedBy, List.mem_mergeSort, List.mem_append] at hentry
    exact hentry.elim (hentries _ _) (hentries _ _)

/-- The line about a reference that leads nowhere is without surrogates if the resource that
declares it is, together with what it refers to. -/
theorem isUnicode_line_of_mem_unresolved
    (hlinked : g.isLinked = true)
    (hg : ∀ r ∈ g.nodes, r.NamesUnicode)
    (hu : u ∈ g.unresolved) :
    u.line.IsUnicode := by
  have hcanonical : ∀ kind : Text, kind.IsUnicode → (Kind.canonical kind).IsUnicode := by
    intro kind hkind
    unfold Kind.canonical
    split
    · exact Kind.isUnicode_name _
    · exact hkind
  rw [unresolved, links_of_linked g hlinked] at hu
  obtain ⟨r, hr, hu⟩ := List.mem_flatMap.mp hu
  obtain ⟨ref, href, rfl⟩ := List.mem_map.mp hu
  have hnode := hg r (List.mem_cons_of_mem _ hr)
  have hnamed := hnode.relations ref (List.mem_filter.mp href).1
  have hname : (Unresolved.ofRef r ref).name.IsUnicode := hnamed.name
  have htarget : (Unresolved.ofRef r ref).target.IsUnicode := by
    unfold Unresolved.target
    split
    · exact hname
    · next ns hproper =>
      have hns := hnamed.ns ns (Option.mem_filter_iff.mp hproper).1
      simp [hns, hname]
  have hsource : (Unresolved.ofRef r ref).source.IsUnicode := hnode.key
  have hkind : (Unresolved.ofRef r ref).kind.IsUnicode := hcanonical ref.kind hnamed.kind
  simp [Unresolved.line, hkind, htarget, hsource]

end Lineage

/-- No view of a lineage has surrogates if its resources, and what they refer to, are named without
them. -/
theorem Command.isUnicode_of_mem_pieces
    {action : Action} {piece : Text}
    (hlinked : g.isLinked = true)
    (hg : ∀ r ∈ g.nodes, r.NamesUnicode)
    (hpiece : piece ∈ action.pieces g format) :
    piece.IsUnicode := by
  have hnodes : ∀ r ∈ g.nodes, r.IsUnicode := fun r hr => (hg r hr).toIsUnicode
  have hline : ∀ t : Text, t.IsUnicode → (line t).IsUnicode :=
    fun t ht => by simp [line, ht]
  cases action with
  | tree =>
    rw [List.mem_singleton.mp hpiece]
    exact hline _ (Text.isUnicode_ofString _)
  | orphans =>
    obtain ⟨key, hkey, rfl⟩ := List.mem_map.mp hpiece
    exact hline _ (Lineage.isUnicode_of_mem_sortedKeys hnodes hkey)
  | related key =>
    obtain ⟨other, hother, rfl⟩ := List.mem_map.mp hpiece
    unfold Lineage.relatedKeys at hother
    split at hother
    · exact hline _ (Lineage.isUnicode_of_mem_sortedKeys hnodes hother)
    · simp at hother
  | impact key =>
    obtain ⟨entry, hentry, rfl⟩ := List.mem_map.mp hpiece
    have hkey := Lineage.isUnicode_key_of_mem_impactOf hnodes hentry
    exact hline _ (by simp [hkey])
  | diagram own key =>
    rw [List.mem_singleton.mp hpiece]
    exact Lineage.isUnicode_draw hnodes _ key
  | unresolved =>
    obtain ⟨text, htext, rfl⟩ := List.mem_map.mp hpiece
    rw [Unresolved.reportLines_eq] at htext
    obtain ⟨u, hu, rfl⟩ := List.mem_map.mp htext
    have hu := (Unresolved.flatten_report_perm g.unresolved).mem_iff.mp hu
    exact hline _ (Lineage.isUnicode_line_of_mem_unresolved hlinked hg hu)

/-! ## Views as texts -/

namespace Command

/-- Texts as lines. -/
def lines (ts : List Text) : Text :=
  Text.join (ts.map line)

/-- The text that shows a view: the tree as data, keys or other entries on lines of their own, or a
diagram. -/
def Action.view (g : Lineage) (format : DiagramFormat) : Action → Text
  | tree => line (Json.pretty (g.tree none).toJson)
  | orphans => lines g.orphanKeys
  | related key => lines (g.relatedKeys key)
  | impact key => lines ((g.impactOf key).map fun i => i.key ++ "\t" ++ i.reason.text)
  | diagram own key => g.draw (own.getD format) key
  | unresolved => lines (Unresolved.reportLines (Unresolved.report g.unresolved))

/-- Control sequences end within a line, so they can be taken out line by line. -/
theorem withoutControlSequences_lines (ts : List Text) :
    (lines ts).withoutControlSequences =
      Text.join ((ts.map line).map Text.withoutControlSequences) := by
  induction ts with
  | nil => exact Text.withoutControlSequences_eq_self (by simp [lines, Text.join])
  | cons t ts ih =>
    have hlines : lines (t :: ts) = t ++ Text.ofString "\n" ++ lines ts := rfl
    rw [hlines, Text.withoutControlSequences_line_append, ih]
    rfl

theorem join_pieces_withoutControlSequences (g : Lineage) (format : DiagramFormat)
    (action : Action) :
    Text.join ((action.pieces g format).map Text.withoutControlSequences) =
      (action.view g format).withoutControlSequences := by
  have hone : ∀ t : Text, Text.join [t] = t := by simp [Text.join]
  cases action with
  | tree => exact hone _
  | diagram own key => exact hone _
  | orphans => exact (withoutControlSequences_lines _).symm
  | related key => exact (withoutControlSequences_lines _).symm
  | unresolved => exact (withoutControlSequences_lines _).symm
  | impact key =>
    simp only [Action.view, Action.pieces, withoutControlSequences_lines, List.map_map,
      Function.comp_def]

/-- A view is printed to its end, without the control sequences in it. -/
theorem printed_pieces
    (hlinked : g.isLinked = true)
    (hg : ∀ r ∈ g.nodes, r.NamesUnicode)
    (format : DiagramFormat) (action : Action) :
    (printed (action.pieces g format)).error? = none ∧
      Text.ofString (printed (action.pieces g format)).output =
        (action.view g format).withoutControlSequences := by
  rw [← join_pieces_withoutControlSequences]
  exact printed_of_isUnicode fun _ hpiece => isUnicode_of_mem_pieces hlinked hg hpiece

end Command

end ClusterLineage
