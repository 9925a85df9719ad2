import ClusterLineage.Batch
import ClusterLineage.Lineage.Construction

/-!
# From a batch to a lineage

Descriptors are read in order.  Each is left out as defective, left out since its key is taken, or
accepted; then the accepted resources are linked.
-/

namespace ClusterLineage

/-- What reading a descriptor reports. -/
def Descriptor.events (j : Json) : List Event :=
  match Descriptor.read j with
  | .error defect => [.descriptorSkipped defect]
  | .ok r =>
    match Kind.declaring? r.kind with
    | some kind => if r.relations.isEmpty then [] else [.relationsExtracted kind r.relations.length]
    | none => []

/-- A lineage that takes in descriptors: how many were defective, and what was reported about each
of them, the last one first. -/
structure Intake where
  lineage : Lineage
  skipped : Nat := 0
  reports : List Trace := []

namespace Intake

/-- The kind of the cluster itself. -/
def rootKind : Text := "cluster"

/-- The name of a cluster that has been given none. -/
def defaultRootName : Text := "cluster"

/-- The start: a cluster without resources. -/
def ofRootName (name : Text) : Intake where
  lineage := .ofRoot { kind := rootKind, name := name }

/-- Takes in one descriptor. -/
def take (s : Intake) (d : Json) : Intake :=
  match Descriptor.read d with
  | .error _ => ⟨s.lineage, s.skipped + 1, { events := Descriptor.events d } :: s.reports⟩
  | .ok r =>
    let step := s.lineage.add r
    ⟨step.lineage, s.skipped, step.trace :: { events := Descriptor.events d } :: s.reports⟩

/-- What is reported about the descriptors of a batch: about each in order, and at the end how many
were defective, if any were. -/
def trace (s : Intake) : Trace :=
  .concat s.reports.reverse ++
    if s.skipped = 0 then {} else { events := [.descriptorsSkipped s.skipped] }

end Intake

/-- Builds and links the lineage of a cluster from descriptors. -/
def Lineage.build (rootName : Text) (descriptors : List Json) (validate : Bool) : Step Unit :=
  let intake := descriptors.foldl Intake.take (.ofRootName rootName)
  let step := intake.lineage.link validate
  ⟨step.outcome, step.lineage, intake.trace ++ step.trace⟩

end ClusterLineage
