import ClusterLineage.Main
import ClusterLineage.Proofs.Batch.Accounts
import ClusterLineage.Proofs.Batch.ApartAnswers
import ClusterLineage.Proofs.Batch.Growth
import ClusterLineage.Proofs.Batch.Order
import ClusterLineage.Proofs.Batch.Spelling
import ClusterLineage.Proofs.Command.Printing
import ClusterLineage.Proofs.Command.Runs
import ClusterLineage.Proofs.Command.TreeReadBack
import ClusterLineage.Proofs.Declared.Broken
import ClusterLineage.Proofs.Descriptor.Manifest
import ClusterLineage.Proofs.Descriptor.Namespaces
import ClusterLineage.Proofs.Descriptor.Unicode
import ClusterLineage.Proofs.Diagram.Dot
import ClusterLineage.Proofs.Diagram.Drawing
import ClusterLineage.Proofs.Diagram.Recovered
import ClusterLineage.Proofs.Diagram.Subgraph
import ClusterLineage.Proofs.Identity
import ClusterLineage.Proofs.Json.Strings
import ClusterLineage.Proofs.Json.Values
import ClusterLineage.Proofs.Lineage.Component
import ClusterLineage.Proofs.Lineage.Counters
import ClusterLineage.Proofs.Lineage.DeclaredPairs
import ClusterLineage.Proofs.Lineage.EdgeCounts
import ClusterLineage.Proofs.Lineage.Impact
import ClusterLineage.Proofs.Lineage.Lifecycle
import ClusterLineage.Proofs.Lineage.Queries
import ClusterLineage.Proofs.Lineage.SortedKeys
import ClusterLineage.Proofs.Orphan.Evidence
import ClusterLineage.Proofs.Orphan.Verdict
import ClusterLineage.Proofs.Ownership.Check
import ClusterLineage.Proofs.Ownership.Walks
import ClusterLineage.Proofs.Text.Encoded
import ClusterLineage.Proofs.Text.Unicode
