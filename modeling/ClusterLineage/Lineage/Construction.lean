import ClusterLineage.Lineage.Ownership
import ClusterLineage.Telemetry.Trace

/-!
# Building a lineage

Resources are added one by one, and linking closes the lineage: it runs once and nothing is added
after it.  Linking can check that no resource is among its own owners; a lineage that fails the
check is linked all the same, but of no use.
-/

namespace ClusterLineage

/-- What can go wrong when a lineage is built. -/
inductive LineageError where
  /-- A resource was added to a linked lineage. -/
  | addAfterLink
  /-- A lineage was linked again. -/
  | linkedTwice
  /-- The resources with these keys own each other around a cycle. -/
  | ownershipCycle (keys : List Text)
  deriving DecidableEq, Repr

/-- The wording of an error. -/
def LineageError.message : LineageError → Text
  | addAfterLink => "cannot add nodes to a linked graph"
  | linkedTwice => "link_nodes() may only run once"
  | ownershipCycle keys =>
    "ownership cycle detected, offending keys: " ++ Text.intercalate ", " keys

/-- What a step of building gives: its outcome, the lineage after it, and what it reports. -/
structure Step (α : Type) where
  outcome : Except LineageError α
  lineage : Lineage
  trace : Trace := {}

namespace Lineage

/-- Adds a resource, unless its key is taken; the outcome says whether it was added. -/
def add (g : Lineage) (r : Resource) : Step Bool :=
  if g.isLinked then ⟨.error .addAfterLink, g, {}⟩
  else if fresh : r.key ∉ g.keys then ⟨.ok true, g.insert r fresh, {}⟩
  else ⟨.ok false, g, { events := [.duplicateIgnored r.key] }⟩

/-- The size of the lineage. -/
def summary (g : Lineage) : Summary where
  root := g.root.key
  nodes := g.size
  edges := g.edges.length
  orphans := g.links.orphans.length
  unresolved := g.unresolved.length

/-- The keys around the first cycle of ownership. -/
def cycleKeys? (g : Lineage) : Option (List Text) :=
  g.ownershipCycle?.map fun cycle => cycle.filterMap g.keyAt?

/-- What is counted when a lineage is linked: its unresolved references and its orphans, by kind. -/
def findings (g : Lineage) : List Counter :=
  g.unresolved.map (fun u => .unresolved (Kind.countLabel u.kind)) ++
    (g.links.orphans.filterMap (g.nodes[·]?)).map fun r => .orphans (Kind.countLabel r.kind)

/-- Links the resources, and checks their ownership if `validate` is set. -/
def link (g : Lineage) (validate : Bool) : Step Unit :=
  if g.isLinked then ⟨.error .linkedTwice, g, {}⟩
  else
    let linked := g.withLinks
    match if validate then linked.cycleKeys? else none with
    | some keys =>
      ⟨.error (.ownershipCycle keys), linked,
        ⟨[.cycleDetected keys], linked.findings ++ [.cycles, .failedBuilds]⟩⟩
    | none =>
      ⟨.ok (), linked,
        ⟨[.lineageLinked linked.summary], linked.findings ++ [.durations, .builds]⟩⟩

end Lineage

end ClusterLineage
