import PropertyGraph.Numeric.Decimal
import PropertyGraph.Text.Blank
import PropertyGraph.Text.Letters
import PropertyGraph.Text.Folding
import PropertyGraph.Calendar.Instant
import PropertyGraph.Collection.SortedMap
import PropertyGraph.Collection.StableSort
import PropertyGraph.Json.Reader
import PropertyGraph.Json.Printer
import PropertyGraph.Value.Path
import PropertyGraph.Value.Order
import PropertyGraph.Value.Text
import PropertyGraph.Value.Json
import PropertyGraph.Graph.Path
import PropertyGraph.Error
import PropertyGraph.Regex.Parser
import PropertyGraph.Query.Record
import PropertyGraph.Staging.StagedPlan
import PropertyGraph.Staging.Validation
import PropertyGraph.Pattern.Text
import PropertyGraph.Pattern.Matching
import PropertyGraph.Query.Execution
import PropertyGraph.Snapshot.Apply
import PropertyGraph.Snapshot.Record
import PropertyGraph.Engine.Config
import PropertyGraph.Engine.Query
import PropertyGraph.Wire.Pattern
import PropertyGraph.Wire.Projection
import PropertyGraph.Wire.Snapshot
import PropertyGraph.Wire.Staging
import PropertyGraph.Wire.Transaction
import PropertyGraph.Transaction.Session
import PropertyGraph.Text.Printable
import PropertyGraph.Proofs.Collection.SortedMap
import PropertyGraph.Proofs.Collection.StableSort
import PropertyGraph.Proofs.Store.Operations
import PropertyGraph.Proofs.Store.Integrity
import PropertyGraph.Proofs.Store.Backend
import PropertyGraph.Proofs.Store.Labels
import PropertyGraph.Proofs.Store.Scans
import PropertyGraph.Proofs.Store.History
import PropertyGraph.Proofs.Store.LabelScan
import PropertyGraph.Proofs.Store.Extension
import PropertyGraph.Proofs.Transaction.Log
import PropertyGraph.Proofs.Transaction.Recovery
import PropertyGraph.Proofs.Transaction.Updates
import PropertyGraph.Proofs.Transaction.Undo
import PropertyGraph.Proofs.Transaction.Atomicity
import PropertyGraph.Proofs.Transaction.Preservation
import PropertyGraph.Proofs.Transaction.Invisibility
import PropertyGraph.Proofs.Transaction.Lifecycle
import PropertyGraph.Proofs.Transaction.Events
import PropertyGraph.Proofs.Staging.Order
import PropertyGraph.Proofs.Staging.Stage
import PropertyGraph.Proofs.Staging.Validation
import PropertyGraph.Proofs.Staging.StagedPlan
import PropertyGraph.Proofs.Staging.Outcome
import PropertyGraph.Proofs.Numeric.Value
import PropertyGraph.Proofs.Numeric.Order
import PropertyGraph.Proofs.Numeric.Addition
import PropertyGraph.Proofs.Numeric.ExactSums
import PropertyGraph.Proofs.Numeric.Rounding
import PropertyGraph.Proofs.Numeric.Overflow
import PropertyGraph.Proofs.Numeric.NumberText
import PropertyGraph.Proofs.Staging.CriticalPath
import PropertyGraph.Proofs.Staging.Costs
import PropertyGraph.Proofs.Staging.Tightness
import PropertyGraph.Proofs.Staging.Relisting
import PropertyGraph.Proofs.Pattern.Expansion
import PropertyGraph.Proofs.Pattern.Bindings
import PropertyGraph.Proofs.Pattern.Choices
import PropertyGraph.Proofs.Pattern.Merging
import PropertyGraph.Proofs.Pattern.PartialMatches
import PropertyGraph.Proofs.Pattern.Matching
import PropertyGraph.Proofs.Pattern.Prebinding
import PropertyGraph.Proofs.Pattern.Joining
import PropertyGraph.Proofs.Pattern.Cutting
import PropertyGraph.Proofs.Pattern.Distance
import PropertyGraph.Proofs.Pattern.Effort
import PropertyGraph.Proofs.Pattern.ShortestPaths
import PropertyGraph.Proofs.Pattern.Truncation
import PropertyGraph.Proofs.Pattern.ResultCap
import PropertyGraph.Proofs.Query.Execution
import PropertyGraph.Proofs.Query.Traversal
import PropertyGraph.Proofs.Query.Reached
import PropertyGraph.Proofs.Query.Optimization
import PropertyGraph.Proofs.Query.SortLimit
import PropertyGraph.Proofs.Query.Reordering
import PropertyGraph.Proofs.Query.Sums
import PropertyGraph.Proofs.Query.Sorting
import PropertyGraph.Proofs.Value.Paths
import PropertyGraph.Proofs.Value.Equality
import PropertyGraph.Proofs.Value.Places
import PropertyGraph.Proofs.Value.Transitivity
import PropertyGraph.Proofs.Value.PlainJson
import PropertyGraph.Proofs.Snapshot.Fields
import PropertyGraph.Proofs.Snapshot.Changes
import PropertyGraph.Proofs.Snapshot.Comparison
import PropertyGraph.Proofs.Snapshot.RoundTrip
import PropertyGraph.Proofs.Snapshot.Inversion
import PropertyGraph.Proofs.Snapshot.Unchanged
import PropertyGraph.Proofs.Snapshot.Involution
import PropertyGraph.Proofs.Pattern.Tokens
import PropertyGraph.Proofs.Pattern.Spans
import PropertyGraph.Proofs.Pattern.Grammar
import PropertyGraph.Proofs.Pattern.Reading
import PropertyGraph.Proofs.Pattern.Parsing
import PropertyGraph.Proofs.Numeric.ExactCost
import PropertyGraph.Proofs.Query.Filter
import PropertyGraph.Proofs.Query.Lowering
import PropertyGraph.Proofs.Query.Staging
import PropertyGraph.Proofs.Query.Validation
import PropertyGraph.Proofs.Query.Criteria
import PropertyGraph.Proofs.Query.Rewriting
import PropertyGraph.Proofs.Query.IndexHints
import PropertyGraph.Proofs.Projection.Accessors
import PropertyGraph.Proofs.Projection.Projector
import PropertyGraph.Proofs.Projection.CachedPaths
import PropertyGraph.Proofs.Projection.Wildcards
import PropertyGraph.Proofs.Projection.Flattening
import PropertyGraph.Proofs.Projection.IntegerText
import PropertyGraph.Proofs.Pattern.HopRanges
