import ClusterLineage.Proofs.Command.Printing
import ClusterLineage.Proofs.Json.Values

/-!
# The printed tree is read back

The tree of a lineage is a plain value, however strange the names in it are.  It is printed as ASCII
over lines, so printing and decoding leave the text as it is, and the reader that takes in batches
gives back the tree from what was printed.
-/

namespace ClusterLineage

open Json (Plain)

variable {g : Lineage} {depth i : Nat} {v : NodeView}

/-! ## The tree as a value -/

theorem plain_ofText? {text : Option Text} (h : ∀ t ∈ text, t.IsUnicode) :
    Plain depth (Json.ofText? text) := by
  cases text with
  | none => exact .null
  | some t => exact .str (h t rfl)

theorem plain_ofTexts {texts : List Text} (h : ∀ t ∈ texts, t.IsUnicode) :
    Plain (depth + 1) (Json.ofTexts texts) := by
  refine .arr fun x hx => ?_
  obtain ⟨t, ht, rfl⟩ := List.mem_map.mp hx
  exact .str (h t ht)

/-- An object whose members have names of the program. -/
theorem plain_obj
    (names : List String) {ms : List (Text × Json)}
    (hnames : ms.map Prod.fst = names.map Text.ofString)
    (hnodup : names.Nodup)
    (hvalues : ∀ m ∈ ms, Plain depth m.2) :
    Plain (depth + 1) (.obj ms) := by
  refine .obj ?_ hvalues ?_
  · intro m hm
    have hmem := List.mem_map_of_mem (f := Prod.fst) hm
    rw [hnames] at hmem
    obtain ⟨name, -, hname⟩ := List.mem_map.mp hmem
    rw [← hname]
    exact Text.isUnicode_ofString name
  · rw [hnames]
    exact hnodup.map fun _ _ => Text.ofString_inj.mp

namespace Lineage

theorem plain_view
    (hg : ∀ r ∈ g.nodes, r.IsUnicode)
    (hv : g.view? i = some v) :
    Plain (depth + 2) v.toJson := by
  obtain ⟨r, hr, rfl⟩ := Option.map_eq_some_iff.mp hv
  have hnode := hg r (List.mem_of_getElem? hr)
  have hparent : ∀ k ∈ g.parentKey? i, k.IsUnicode := by
    intro k hk
    obtain ⟨p, -, hp⟩ := Option.bind_eq_some_iff.mp hk
    exact isUnicode_of_keyAt? hg hp
  have hchildren : ∀ k ∈ g.childKeys i, k.IsUnicode :=
    fun k hk => isUnicode_of_mem_sortedKeys hg hk
  have hleaves : ∀ k ∈ g.leafKeys i, k.IsUnicode :=
    fun k hk => isUnicode_of_mem_sortedKeys hg hk
  refine plain_obj ["key", "kind", "name", "ns", "parent_key", "children_keys", "leaf_keys",
    "is_orphan"] rfl (by decide) ?_
  simp only [List.forall_mem_cons]
  exact ⟨.str hnode.key, .str hnode.kind, .str hnode.name, plain_ofText? hnode.ns,
    plain_ofText? hparent, plain_ofTexts hchildren, plain_ofTexts hleaves, .bool _, by simp⟩

/-- The tree of a lineage is a plain value: an object with a list of objects with lists of keys. -/
theorem plain_tree
    (g : Lineage)
    (hg : ∀ r ∈ g.nodes, r.IsUnicode)
    {id : Option Text}
    (hid : ∀ name ∈ id, name.IsUnicode) :
    Plain (depth + 4) (g.tree id).toJson := by
  have hroot : g.root.IsUnicode := hg g.root List.mem_cons_self
  have hname : (g.tree id).id.IsUnicode := by
    cases id with
    | none => exact hroot.name
    | some name => exact hid name rfl
  have hviews : ∀ v ∈ (g.tree id).nodes, Plain (depth + 2) v.toJson := by
    intro v hv
    rw [tree, Text.sortedBy, List.mem_mergeSort, List.mem_filterMap] at hv
    obtain ⟨i, -, hi⟩ := hv
    exact plain_view hg hi
  refine plain_obj ["tree_id", "root_key", "nodes"] rfl (by decide) ?_
  simp only [List.forall_mem_cons]
  refine ⟨.str hname, .str hroot.key, .arr fun x hx => ?_, by simp⟩
  obtain ⟨v, hv, rfl⟩ := List.mem_map.mp hx
  exact hviews v hv

end Lineage

/-! ## Printing and reading -/

namespace Command

variable {cs : List Char}

/-- Characters that values are written with are printed as they are. -/
theorem printed_of_isWritable (hcs : ∀ c ∈ cs, Json.IsWritable c) :
    printed [Text.ofString (String.ofList cs)] = { output := String.ofList cs } := by
  have hescape : Code.ofChar '\x1b' ∉ (Text.ofString (String.ofList cs)).codes := by
    intro hmem
    obtain ⟨c, hc, heq⟩ := List.mem_map.mp hmem
    rw [String.toList_ofList, Code.ofChar_inj.mp heq] at hc
    exact absurd (hcs _ hc) (by decide)
  have hkept : (Text.ofString (String.ofList cs)).withoutControlSequences =
      Text.ofString (String.ofList cs) :=
    Text.withoutControlSequences_eq_self hescape
  rw [printed, hkept, Text.encode_ofString]
  simp only [printed, String.append_empty]

/-- What is written over lines and printed is read back from its bytes. -/
theorem readPayload_written
    {j : Json}
    (h : Plain 983 j) :
    readPayload (String.ofList (Json.written .lines 0 j ++ ['\n'])).toUTF8.data.toList = .ok j := by
  have hwritable : ∀ c ∈ Json.written .lines 0 j ++ ['\n'], Json.IsWritable c := by
    rw [List.forall_mem_append, List.forall_mem_singleton]
    exact ⟨h.isWritable_written 0, by decide⟩
  have hascii : ∀ c ∈ Json.written .lines 0 j ++ ['\n'], c.toNat < 0x80 := by
    intro c hc
    rcases hwritable c hc with rfl | ⟨-, hlt⟩
    · decide
    · omega
  have hreturn : '\r' ∉ Json.written .lines 0 j ++ ['\n'] :=
    fun hmem => absurd (hwritable _ hmem) (by decide)
  have hdecode : Text.decodeUtf8 (String.ofList (Json.written .lines 0 j ++
      ['\n'])).toUTF8.data.toList = .ok (Json.written .lines 0 j ++ ['\n']) := by
    rw [Text.toList_toUTF8_ofList hascii, Text.decodeUtf8, Text.decodeUtf8From_ascii hascii]
    rfl
  have hparse : Json.parse {} (Json.written .lines 0 j ++ ['\n']) = .ok j :=
    Json.parse_written h
  simp only [readPayload, hdecode, Text.unifyLineEnds_eq_self hreturn, hparse]

/-- The printed tree of a lineage whose resources have names without surrogates is read back. -/
theorem readPayload_tree
    (hg : ∀ r ∈ g.nodes, r.IsUnicode)
    (format : DiagramFormat) :
    ∃ output, Action.tree.run g format = { output := output } ∧
      readPayload output.toUTF8.data.toList = .ok (g.tree none).toJson := by
  have hplain : Plain 983 (g.tree none).toJson := g.plain_tree hg (by simp)
  have hline : line (Json.pretty (g.tree none).toJson) =
      Text.ofString (String.ofList (Json.written .lines 0 (g.tree none).toJson ++ ['\n'])) := by
    rw [line, Json.pretty, String.ofList_append, Text.ofString_append]
  have hwritable : ∀ c ∈ Json.written .lines 0 (g.tree none).toJson ++ ['\n'],
      Json.IsWritable c := by
    rw [List.forall_mem_append, List.forall_mem_singleton]
    exact ⟨hplain.isWritable_written 0, by decide⟩
  have hrun : Action.tree.run g format = printed [line (Json.pretty (g.tree none).toJson)] := rfl
  refine ⟨_, ?_, readPayload_written hplain⟩
  rw [hrun, hline, printed_of_isWritable hwritable]

/-- The printed tree is read back as the tree.  Whatever batch a lineage is built from, if the kinds,
names and namespaces in it and the name of the cluster have no surrogates, then the tree is printed,
and the reader of batches takes what was printed for exactly the value that the tree is. -/
theorem printed_tree_reads_back
    (name : Text) (ds : List Json) (validate : Bool) (format : DiagramFormat) :
    let g := (Lineage.build name ds validate).lineage
    (∀ r ∈ g.nodes, r.IsUnicode) →
      ∃ output, Action.tree.run g format = { output := output } ∧
        readPayload output.toUTF8.data.toList = .ok (g.tree none).toJson :=
  fun hg => readPayload_tree hg format

/-- A name with quotes, a backslash, control characters, a line separator and a character beyond the
first plane. -/
theorem printed_tree_reads_back_hostile :
    let ds : List Json := [.obj [("kind", .str "Po\"d"),
      ("name", .str "a\\\n\x1b[0m\u2028😀"), ("ns", .str "\t")]]
    let g := (Lineage.build "pro\"d" ds true).lineage
    (∀ r ∈ g.nodes, r.IsUnicode) ∧
      ∃ output, Action.tree.run g .dot = { output := output } ∧
        readPayload output.toUTF8.data.toList = .ok (g.tree none).toJson := by
  intro ds g
  have hnodes : g.nodes = [{ kind := "cluster", name := "pro\"d" },
      { kind := "Po\"d", name := "a\\\n\x1b[0m\u2028😀", ns := some (Text.ofString "\t") }] := by
    decide +kernel
  have hg : ∀ r ∈ g.nodes, r.IsUnicode := by
    rw [hnodes, List.forall_mem_cons, List.forall_mem_singleton]
    refine ⟨⟨Text.isUnicode_ofString _, Text.isUnicode_ofString _, by simp⟩,
      ⟨Text.isUnicode_ofString _, Text.isUnicode_ofString _, ?_⟩⟩
    rintro _ ⟨⟩
    exact Text.isUnicode_ofString _
  exact ⟨hg, printed_tree_reads_back "pro\"d" ds true .dot hg⟩

end Command

end ClusterLineage
