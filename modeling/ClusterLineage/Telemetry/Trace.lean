import ClusterLineage.Telemetry.Event

/-!
# Traces

A trace collects what an operation reports: events in order, and counters that went up by one
each time they occur.
-/

namespace ClusterLineage

/-- A counter. -/
inductive Counter where
  /-- Lineages that were built. -/
  | builds
  /-- Builds that failed at an ownership cycle. -/
  | failedBuilds
  /-- Builds whose duration was measured. -/
  | durations
  /-- Ownership cycles that were found. -/
  | cycles
  /-- Orphans by the label of their kind. -/
  | orphans (label : Text)
  /-- References that lead nowhere by the label of their kind. -/
  | unresolved (label : Text)
  deriving DecidableEq, Repr

/-- The name of a counter with its labels. -/
def Counter.name : Counter → Text
  | builds => "graph_builds_total\x7boutcome=ok\x7d"
  | failedBuilds => "graph_builds_total\x7boutcome=cycle\x7d"
  | durations => "graph_build_duration_seconds_count"
  | cycles => "ownership_cycles_total"
  | orphans label => "orphans_detected_total\x7bkind=" ++ label ++ "\x7d"
  | unresolved label => "missing_references_total\x7bkind=" ++ label ++ "\x7d"

/-- What an operation reports. -/
structure Trace where
  events : List Event := []
  counters : List Counter := []
  deriving DecidableEq, Repr

namespace Trace

/-- One trace after another. -/
def append (a b : Trace) : Trace :=
  ⟨a.events ++ b.events, a.counters ++ b.counters⟩

instance : Append Trace := ⟨append⟩

/-- Traces one after another. -/
def concat (ts : List Trace) : Trace :=
  ⟨ts.flatMap Trace.events, ts.flatMap Trace.counters⟩

/-- By how much a counter went up. -/
def growth (t : Trace) (c : Counter) : Nat :=
  t.counters.count c

/-- The counters that went up, each with by how much. -/
def tally (t : Trace) : List (Counter × Nat) :=
  t.counters.eraseDups.map fun c => (c, t.growth c)

end Trace

end ClusterLineage
