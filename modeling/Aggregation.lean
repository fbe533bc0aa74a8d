import Aggregation.AsOf
import Aggregation.Backend.Client
import Aggregation.Backend.Endpoint
import Aggregation.Backend.Query
import Aggregation.Backend.Reply
import Aggregation.Calendar.Date
import Aggregation.Calendar.Rfc3339
import Aggregation.Catalog.Basic
import Aggregation.Catalog.Codec
import Aggregation.CommandLine.Actions
import Aggregation.CommandLine.Arguments
import Aggregation.CommandLine.Command
import Aggregation.CommandLine.Failure
import Aggregation.CommandLine.Help
import Aggregation.CommandLine.Run
import Aggregation.Decimal.Double
import Aggregation.Decimal.Shortest
import Aggregation.Editor
import Aggregation.Error
import Aggregation.Field.Basic
import Aggregation.Field.Codec
import Aggregation.Files
import Aggregation.Grid
import Aggregation.Json.Basic
import Aggregation.Json.Printer
import Aggregation.Json.Reader
import Aggregation.Json.Record
import Aggregation.Json.Token
import Aggregation.Main
import Aggregation.Placeholder
import Aggregation.Propagation
import Aggregation.Request
import Aggregation.Resource
import Aggregation.Session.Basic
import Aggregation.Session.Rehearsal
import Aggregation.Settings.Basic
import Aggregation.Settings.Layer
import Aggregation.Settings.Value
import Aggregation.Spec
import Aggregation.Stage.Basic
import Aggregation.Stage.Codec
import Aggregation.Text.Blank
import Aggregation.Text.Escaped
import Aggregation.Text.Invisible
import Aggregation.Text.Numeral
import Aggregation.Text.Split
import Aggregation.Text.Utf8
import Aggregation.Toml.Moment
import Aggregation.Toml.Number
import Aggregation.Toml.Reader
import Aggregation.Toml.Table
import Aggregation.Toml.Token
import Aggregation.Proofs.Grid.Operation
import Aggregation.Proofs.Grid.Transcript
import Aggregation.Proofs.Grid.Coherence
import Aggregation.Proofs.Grid.SortSupport
import Aggregation.Proofs.Field.Lookup
import Aggregation.Proofs.Propagation.Prefix
import Aggregation.Proofs.Propagation.References
import Aggregation.Proofs.Propagation.Offered
import Aggregation.Proofs.Editor.Freshness
import Aggregation.Proofs.Session.Step
import Aggregation.Proofs.Session.SingleFetch
import Aggregation.Proofs.Backend.ReportedErrors
import Aggregation.Proofs.Grid.MetadataFailure
import Aggregation.Proofs.Grid.FirstPage
import Aggregation.Proofs.Field.WellFormed
import Aggregation.Proofs.Propagation.WellFormed
import Aggregation.Proofs.Editor.Validity
import Aggregation.Proofs.Propagation.Composition
import Aggregation.Proofs.Propagation.SortChecks
import Aggregation.Proofs.Catalog.Expansion
import Aggregation.Proofs.Catalog.Course
import Aggregation.Proofs.Catalog.Bounded
import Aggregation.Proofs.Catalog.Selection
import Aggregation.Proofs.Json.Value
import Aggregation.Proofs.Json.Record
import Aggregation.Proofs.Filter.Reading
import Aggregation.Proofs.Spec.RoundTrip
import Aggregation.Proofs.Filter.LostParts
import Aggregation.Proofs.Propagation.Overlay
import Aggregation.Proofs.Propagation.Uncomputed
import Aggregation.Proofs.Catalog.Built
import Aggregation.Proofs.Catalog.RecordScalars
import Aggregation.Proofs.Propagation.Retyping
import Aggregation.Proofs.Propagation.Unflawed
import Aggregation.Proofs.Catalog.WellFormed
import Aggregation.Proofs.Catalog.Pruning
import Aggregation.Proofs.Except
import Aggregation.Proofs.CommandLine.Asking
import Aggregation.Proofs.CommandLine.Agreement
import Aggregation.Proofs.Field.Overriding
import Aggregation.Proofs.Propagation.Written
import Aggregation.Proofs.Propagation.Reached
import Aggregation.Proofs.Propagation.Unwinding
import Aggregation.Proofs.Propagation.Computing
import Aggregation.Proofs.Propagation.Grouping
import Aggregation.Proofs.Editor.Moving
import Aggregation.Proofs.Editor.Diagnostics
import Aggregation.Proofs.Editor.Locality
import Aggregation.Proofs.Grid.Retrying
import Aggregation.Proofs.Calendar.DayNumber
import Aggregation.Proofs.Calendar.Timestamp
import Aggregation.Proofs.Calendar.Written
import Aggregation.Proofs.AsOf
import Aggregation.Proofs.Text.Trimming
import Aggregation.Proofs.Calendar.Rereading
import Aggregation.Proofs.AsOf.Idempotence
import Aggregation.Proofs.Json.Strings
import Aggregation.Proofs.Placeholder
import Aggregation.Proofs.Catalog.Closed
