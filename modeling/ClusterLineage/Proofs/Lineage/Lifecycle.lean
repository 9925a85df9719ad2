import ClusterLineage.Proofs.Lineage.SortedKeys
import ClusterLineage.Proofs.Orphan.Verdict

/-!
# The life of a lineage

A lineage is built by calls that add a resource or link it, in whatever order.  What all calls
together have built can be read off them: the resources that are added before the first linking are
taken in, and the lineage is linked if any call links it.  Later calls, also after a linking that
has found a cycle of ownership, are refused and change nothing.
-/

namespace ClusterLineage

/-- A call that builds a lineage. -/
inductive Call where
  /-- Adds a resource. -/
  | add (r : Resource)
  /-- Links the resources, with or without a check of their ownership. -/
  | link (validate : Bool)
  deriving DecidableEq, Repr

/-- The resources that are added before the first linking, whether or not they are taken in. -/
def Call.added : List Call → List Resource
  | .add r :: calls => r :: added calls
  | .link _ :: _ => []
  | [] => []

namespace Lineage

variable {g : Lineage}

/-- A lineage after a call, whether or not the call fails. -/
def call (g : Lineage) : Call → Lineage
  | .add r => (g.add r).lineage
  | .link validate => (g.link validate).lineage

/-- A lineage after many calls. -/
def callAll (g : Lineage) (calls : List Call) : Lineage :=
  calls.foldl call g

theorem callAll_cons (g : Lineage) (c : Call) (calls : List Call) :
    g.callAll (c :: calls) = (g.call c).callAll calls := rfl

theorem callAll_append (g : Lineage) (calls more : List Call) :
    g.callAll (calls ++ more) = (g.callAll calls).callAll more :=
  List.foldl_append

/-! ## One call -/

theorem link_of_linked (hg : g.isLinked = true) (validate : Bool) :
    g.link validate = ⟨.error .linkedTwice, g, {}⟩ :=
  if_pos hg

theorem call_of_linked (hg : g.isLinked = true) (c : Call) : g.call c = g := by
  cases c with
  | add r => rw [call, add_of_linked hg]
  | link validate => rw [call, link_of_linked hg]

/-- What a call can do: take in one resource whose key is new, link, or nothing at all. -/
theorem call_cases (g : Lineage) (c : Call) :
    (∃ r, c = .add r ∧ (g.call c).nodes = g.nodes ++ [r]) ∨
      (∃ validate, c = .link validate ∧ g.call c = g.withLinks) ∨ g.call c = g := by
  cases c with
  | add r =>
    obtain ⟨-, hfresh, hadd⟩ | hadd := lineage_add_cases g r
    · exact .inl ⟨r, rfl, by rw [call, hadd, nodes_insert]⟩
    · exact .inr (.inr hadd)
  | link validate =>
    cases hg : g.isLinked with
    | true => exact .inr (.inr (call_of_linked hg _))
    | false => exact .inr (.inl ⟨validate, rfl, lineage_link hg validate⟩)

theorem nodes_prefix_call (g : Lineage) (c : Call) : g.nodes <+: (g.call c).nodes := by
  obtain ⟨r, -, hnodes⟩ | ⟨_, -, hlinked⟩ | hsame := call_cases g c
  · rw [hnodes]
    exact List.prefix_append _ _
  · exact ⟨[], by rw [hlinked, nodes_withLinks, List.append_nil]⟩
  · exact ⟨[], by rw [hsame, List.append_nil]⟩

/-! ## Many calls -/

/-- A node that is there once stays, under its number. -/
theorem nodes_prefix_callAll (g : Lineage) (calls : List Call) :
    g.nodes <+: (g.callAll calls).nodes := by
  induction calls generalizing g with
  | nil => exact List.prefix_rfl
  | cons c calls ih => exact (nodes_prefix_call g c).trans (ih (g.call c))

theorem callAll_of_linked (hg : g.isLinked = true) (calls : List Call) : g.callAll calls = g := by
  induction calls with
  | nil => rfl
  | cons c calls ih => rw [callAll_cons, call_of_linked hg, ih]

open Classical in
/-- Many calls add what comes before the first linking, and link if one of them does. -/
theorem callAll_eq
    (hg : g.isLinked = false)
    (calls : List Call) :
    g.callAll calls =
      if ∃ validate, .link validate ∈ calls then (g.addAll (Call.added calls)).withLinks
      else g.addAll (Call.added calls) := by
  induction calls generalizing g with
  | nil =>
    rw [if_neg (by simp)]
    rfl
  | cons c calls ih =>
    cases c with
    | add r =>
      have hopen : (g.add r).lineage.isLinked = false := by rw [isLinked_add, hg]
      rw [callAll_cons, call, ih hopen]
      simp only [List.mem_cons, reduceCtorEq, false_or]
      rfl
    | link validate =>
      -- the first linking: what follows is refused, and nothing has been added before it
      rw [callAll_cons, call, lineage_link hg, callAll_of_linked (isLinked_withLinks g),
        if_pos ⟨validate, List.mem_cons_self⟩]
      rfl

theorem isLinked_callAll_iff (hg : g.isLinked = false) (calls : List Call) :
    (g.callAll calls).isLinked = true ↔ ∃ validate, Call.link validate ∈ calls := by
  rw [callAll_eq hg]
  split
  · next hlink => simp [hlink]
  · next hlink => simp [hlink, isLinked_addAll, hg]

theorem nodes_callAll_ofRoot (root : Resource) (calls : List Call) :
    ((ofRoot root).callAll calls).nodes = root :: accepted [root.key] (Call.added calls) := by
  have hadded : ((ofRoot root).addAll (Call.added calls)).nodes =
      root :: accepted [root.key] (Call.added calls) := by
    rw [nodes, root_addAll, members_addAll_ofRoot]
    rfl
  rw [callAll_eq rfl]
  split
  · rw [nodes_withLinks, hadded]
  · exact hadded

/-! ## What holds at any time -/

/-- Numbers and keys name the same nodes: the numbers are those below the size, each node is found
under its key, and all keys can be listed in order. -/
structure Indexed (g : Lineage) : Prop where
  numbers : ∀ i, (∃ k, g.keyAt? i = some k) ↔ i < g.size
  found : ∀ i k, g.keyAt? i = some k → g.indexOf? k = some i ∧ g.contains k = true
  ascending : Text.Ascending (Text.sorted g.keys)
  length_keys : (Text.sorted g.keys).length = g.size
  mem_keys : ∀ k, k ∈ Text.sorted g.keys ↔ ∃ i, g.keyAt? i = some k

/-- Nothing is derived yet.  A resource is taken in if its key is new and ignored otherwise, and
linking changes no resource. -/
structure Growing (g : Lineage) : Prop where
  no_edges : g.orderedEdges = []
  no_findings : g.unresolved = [] ∧ ∀ i, g.isOrphan i = false
  add_new : ∀ r, r.key ∉ g.keys → (g.add r).outcome = .ok true ∧
    (g.add r).lineage.nodes = g.nodes ++ [r] ∧ (g.add r).lineage.isLinked = false
  add_taken : ∀ r, r.key ∈ g.keys → (g.add r).outcome = .ok false ∧ (g.add r).lineage = g
  add_counters : ∀ r, (g.add r).trace.counters = []
  link_outcome : ∀ validate, (g.link validate).outcome = .ok () ∨
    ∃ keys, (g.link validate).outcome = .error (.ownershipCycle keys)
  link_lineage : ∀ validate, (g.link validate).lineage.isLinked = true ∧
    (g.link validate).lineage.nodes = g.nodes ∧ (g.link validate).lineage.isOrphan 0 = false ∧
      (g.link validate).lineage.unresolvedFrom 0 = []

/-- Calls fail, report nothing and leave everything as it is. -/
structure Closed (g : Lineage) : Prop where
  add : ∀ r, g.add r = ⟨.error .addAfterLink, g, {}⟩
  link : ∀ validate, g.link validate = ⟨.error .linkedTwice, g, {}⟩
  calls : ∀ calls, g.callAll calls = g

theorem indexed (g : Lineage) : g.Indexed where
  numbers i := by
    constructor
    · rintro ⟨k, hk⟩
      exact lt_size_of_keyAt? hk
    · exact exists_keyAt?
  found i k hk := by
    have hindex := indexOf?_of_keyAt? hk
    exact ⟨hindex, Option.isSome_of_mem hindex⟩
  ascending := ascending_sorted_keys g
  length_keys := length_sorted_keys g
  mem_keys k := by rw [Text.mem_sorted, mem_keys_iff]

theorem growing_of_not_linked (hg : g.isLinked = false) : g.Growing where
  no_edges := by
    have hedges : g.edges = [] := by rw [edges, g.links_of_not_linked hg]
    simp [orderedEdges, targets, edgesFrom, hedges]
  no_findings := by
    rw [unresolved, g.links_of_not_linked hg]
    refine ⟨rfl, fun i => ?_⟩
    rw [isOrphan, g.links_of_not_linked hg]
    rfl
  add_new r hr := by
    rw [add_of_fresh hg hr]
    exact ⟨rfl, nodes_insert g r hr, isLinked_insert g r hr⟩
  add_taken r hr := by
    rw [add_of_taken hg hr]
    exact ⟨rfl, rfl⟩
  add_counters r := by
    by_cases hr : r.key ∈ g.keys
    · rw [add_of_taken hg hr]
    · rw [add_of_fresh hg hr]
  link_outcome validate := by
    rw [outcome_link hg]
    split
    · next keys _ => exact .inr ⟨keys, rfl⟩
    · exact .inl rfl
  link_lineage validate := by
    rw [lineage_link hg]
    exact ⟨rfl, rfl, isOrphan_zero _ rfl, unresolvedFrom_zero rfl⟩

theorem closed_of_linked (hg : g.isLinked = true) : g.Closed where
  add := add_of_linked hg
  link := link_of_linked hg
  calls := callAll_of_linked hg

/-- After any calls on a cluster, its nodes are the cluster and the first resource with each new key
among those added before the first linking, numbered and found under their keys.  The lineage grows
until it is linked for the first time, whatever comes of that, and from then on it is closed. -/
theorem calls_keep_lineage (root : Resource) (calls : List Call) :
    let g := (ofRoot root).callAll calls
    g.nodes = root :: accepted [root.key] (Call.added calls) ∧
      (g.isLinked = true ↔ ∃ validate, Call.link validate ∈ calls) ∧
      (∀ more, g.nodes <+: ((ofRoot root).callAll (calls ++ more)).nodes) ∧
      g.Indexed ∧ (g.isLinked = false → g.Growing) ∧ (g.isLinked = true → g.Closed) := by
  intro g
  refine ⟨nodes_callAll_ofRoot root calls, isLinked_callAll_iff rfl calls, ?_, indexed g,
    growing_of_not_linked, closed_of_linked⟩
  intro more
  rw [callAll_append]
  exact nodes_prefix_callAll g more

/-- A pod that comes twice is taken in once, another cluster is ignored, and the pods own each
other.  Linking finds that out, and after it nothing can be added. -/
theorem calls_keep_lineage_pods_owning_each_other :
    let root : Resource := { kind := "cluster", name := "prod" }
    let a : Resource := { kind := "Pod", name := "a", owners := [{ kind := "Pod", name := "b" }] }
    let b : Resource := { kind := "Pod", name := "b", owners := [{ kind := "Pod", name := "a" }] }
    let calls : List Call :=
      [.add a, .add { kind := "POD", name := "A" }, .add { kind := "Cluster", name := "PROD" },
        .add b]
    let g := (ofRoot root).callAll calls
    let linked := (ofRoot root).callAll (calls ++ [.link true])
    g.isLinked = false ∧ g.Growing ∧ g.nodes = [root, a, b] ∧
      (g.link true).outcome = .error (.ownershipCycle ["pod/a", "pod/b"]) ∧
      linked.isLinked = true ∧ linked.Closed ∧ linked.nodes = [root, a, b] := by
  intro root a b calls g linked
  obtain ⟨hnodes, hopen, -, -, hgrowing, -⟩ := calls_keep_lineage root calls
  obtain ⟨hnodes', hlink, -, -, -, hclosed⟩ := calls_keep_lineage root (calls ++ [.link true])
  have hg : g.isLinked = false := by
    rw [Bool.eq_false_iff, ne_eq, hopen]
    simp [calls]
  have hlinked : linked.isLinked = true := hlink.mpr ⟨true, by simp⟩
  have haccepted : accepted [root.key] [a, { kind := "POD", name := "A" },
      { kind := "Cluster", name := "PROD" }, b] = [a, b] := by decide +kernel
  refine ⟨hg, hgrowing hg, ?_, by decide +kernel, hlinked, hclosed hlinked, ?_⟩
  · rw [hnodes]
    exact congrArg (root :: ·) haccepted
  · rw [hnodes']
    exact congrArg (root :: ·) haccepted

end Lineage

end ClusterLineage
