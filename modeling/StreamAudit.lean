import StreamAudit.FanOut
import StreamAudit.Main
import StreamAudit.Number.WordSum
import StreamAudit.Proofs.Calendar.Numbering
import StreamAudit.Proofs.Text.FixedWidth
import StreamAudit.Settings.DatabaseUrl
import StreamAudit.Proofs.Calendar.Spelling
import StreamAudit.Proofs.Calendar.IsoText
import StreamAudit.Proofs.Relabel
import StreamAudit.Proofs.Rollup
import StreamAudit.Proofs.Backend.Grouping
import StreamAudit.Proofs.Backend.Totals
import StreamAudit.Proofs.Backend.Relational
import StreamAudit.Proofs.Query
import StreamAudit.Proofs.Accounting
import StreamAudit.Proofs.FailurePolicy
import StreamAudit.Proofs.StreamIsolation
import StreamAudit.Proofs.Backend.Warehouse
import StreamAudit.Proofs.Backend.Agreement
import StreamAudit.Proofs.Registry.Mirror
import StreamAudit.Proofs.Registry.Needs
import StreamAudit.Proofs.SelectionPolicy
import StreamAudit.Proofs.Labelling
import StreamAudit.Proofs.CacheTransparency
import StreamAudit.Proofs.Registration
import StreamAudit.Proofs.SourceHistory
import StreamAudit.Proofs.Registry.Stability
import StreamAudit.Proofs.Backend.SearchIndex
import StreamAudit.Proofs.Backend.Health
import StreamAudit.Proofs.DayRanges
import StreamAudit.Proofs.Backend.DayIndices
import StreamAudit.Proofs.WholeSeries
import StreamAudit.Proofs.Privilege
import StreamAudit.Proofs.Store.Insertion
import StreamAudit.Proofs.RowOrder
import StreamAudit.Proofs.Json.Scalars
import StreamAudit.Proofs.Json.RoundTrip
import StreamAudit.Proofs.CommandLine.PlainText
import StreamAudit.Proofs.QueryCommand
import StreamAudit.Proofs.FanOut
import StreamAudit.Proofs.Rollup.Average
import StreamAudit.Proofs.Rollup.Exactness
import StreamAudit.Proofs.Rollup.Coarsening
import StreamAudit.Proofs.Backend.Redelivery
import StreamAudit.Proofs.DatabaseUrl
import StreamAudit.Proofs.SourceCredentials
import StreamAudit.Proofs.Rollup.StampedLabels
import StreamAudit.Proofs.Rollup.CutLabels
import StreamAudit.Proofs.Registry.Refinement
import StreamAudit.Proofs.Calendar.Shifting
import StreamAudit.Proofs.Calendar.IsoReading
import StreamAudit.Proofs.Calendar.IsoInstant
import StreamAudit.Proofs.Stamping
import StreamAudit.Proofs.Calendar.Coverage
import StreamAudit.Proofs.Number.Rounding
import StreamAudit.Proofs.Milliseconds
import StreamAudit.Proofs.Form.Day
import StreamAudit.Proofs.Form.Members
import StreamAudit.Proofs.Requests
import StreamAudit.Proofs.Backend.IndexNames
import StreamAudit.Proofs.Text.CommaNames
import StreamAudit.Proofs.Text.LowerCase
import StreamAudit.Proofs.Json.DistinctNames
import StreamAudit.Proofs.Settings.IdLists
import StreamAudit.Proofs.Backend.MinuteCall
import StreamAudit.Proofs.Backend.SearchRequest
import StreamAudit.Proofs.Backend.StatementAnswer
