import ClusterLineage.Descriptor.Basic

/-!
# Events

What happens while a lineage is built, as it is reported to a log: each event has a severity, the
component it comes from, a name, and fields of its own.
-/

namespace ClusterLineage

/-- How much an event matters, from least to most. -/
inductive Severity where
  | debug
  | info
  | warning
  | error
  deriving DecidableEq, Repr

namespace Severity

/-- The name of a severity. -/
def name : Severity → Text
  | debug => "debug"
  | info => "info"
  | warning => "warning"
  | error => "error"

/-- The place of a severity in their order. -/
def rank : Severity → Nat
  | debug => 0
  | info => 1
  | warning => 2
  | error => 3

/-- The severity that a text names, in any letter case. -/
def ofName? (text : Text) : Option Severity :=
  [debug, info, warning, error].find? (·.name == Text.lower text)

end Severity

/-- The size of a lineage after linking. -/
structure Summary where
  root : Text
  nodes : Nat
  edges : Nat
  orphans : Nat
  unresolved : Nat
  deriving DecidableEq, Repr

/-- Something that happened. -/
inductive Event where
  /-- A descriptor was left out. -/
  | descriptorSkipped (defect : Descriptor.Defect)
  /-- So many descriptors of a batch were left out. -/
  | descriptorsSkipped (count : Nat)
  /-- A resource of the kind declares so many references. -/
  | relationsExtracted (kind : Kind) (count : Nat)
  /-- A resource was left out since its key is taken. -/
  | duplicateIgnored (key : Text)
  /-- Owners own each other around a cycle. -/
  | cycleDetected (keys : List Text)
  /-- A lineage is linked. -/
  | lineageLinked (summary : Summary)
  /-- Building failed for the given reason. -/
  | buildFailed (message : Text)
  deriving DecidableEq, Repr

namespace Event

/-- How much the event matters. -/
def severity : Event → Severity
  | descriptorSkipped _ => .warning
  | descriptorsSkipped _ => .info
  | relationsExtracted .. => .debug
  | duplicateIgnored _ => .debug
  | cycleDetected _ => .error
  | lineageLinked _ => .info
  | buildFailed _ => .error

/-- The component that reports the event. -/
def component : Event → String
  | descriptorSkipped _ | descriptorsSkipped _ => "graph.builder"
  | relationsExtracted .. => "extractors.registry"
  | duplicateIgnored _ | cycleDetected _ | lineageLinked _ => "graph.lineage"
  | buildFailed _ => "cli"

/-- The name of the event. -/
def name : Event → String
  | descriptorSkipped _ => "descriptor_skipped"
  | descriptorsSkipped _ => "descriptors_skipped"
  | relationsExtracted .. => "relations_extracted"
  | duplicateIgnored _ => "duplicate_resource_ignored"
  | cycleDetected _ => "ownership_cycle_detected"
  | lineageLinked _ => "lineage_graph_linked"
  | buildFailed _ => "graph_build_failed"

/-- The fields that the event has besides those that all events have. -/
def fields : Event → List (Text × Json)
  | descriptorSkipped (.notAnObject typeName) =>
    [("reason", .str "not_a_mapping"), ("type", .str typeName)]
  | descriptorSkipped (.incomplete kind name) =>
    [("reason", .str "missing_kind_or_name"), ("kind", .ofText? kind), ("name", .ofText? name)]
  | descriptorsSkipped count => [("count", .int count)]
  | relationsExtracted kind count => [("kind", .str kind.name), ("count", .int count)]
  | duplicateIgnored key => [("key", .str key)]
  | cycleDetected keys => [("cycle", .ofTexts keys)]
  | lineageLinked s =>
    [("root", .str s.root), ("nodes", .int s.nodes), ("edges", .int s.edges),
      ("orphans", .int s.orphans), ("missing_references", .int s.unresolved)]
  | buildFailed message => [("error", .str message)]

/-- The record of an event in a log; `levelField` is the name of the field for its severity. -/
def record (levelField : Text) (e : Event) : Json :=
  .obj (("event", .str e.name) :: (levelField, .str e.severity.name) ::
    ("component", .str e.component) :: e.fields)

end Event

end ClusterLineage
