import ActivityMetrics.Calendar.Civil
import ActivityMetrics.Calendar.Date
import ActivityMetrics.Calendar.Reading
import ActivityMetrics.CommandLine.Command
import ActivityMetrics.CommandLine.Grammar
import ActivityMetrics.CommandLine.Run
import ActivityMetrics.Decimal.Layout
import ActivityMetrics.Decimal.Numeral
import ActivityMetrics.Decimal.Paired
import ActivityMetrics.Decimal.Shortest
import ActivityMetrics.Dimension
import ActivityMetrics.Document
import ActivityMetrics.Failure
import ActivityMetrics.Filter.Assignment
import ActivityMetrics.Filter.Basic
import ActivityMetrics.Filter.Request
import ActivityMetrics.Main
import ActivityMetrics.Metric.Answers
import ActivityMetrics.Metric.Backlog
import ActivityMetrics.Metric.Breakdown
import ActivityMetrics.Metric.Catalog
import ActivityMetrics.Metric.Count
import ActivityMetrics.Metric.Query
import ActivityMetrics.Naming
import ActivityMetrics.Period.Basic
import ActivityMetrics.Period.Expression
import ActivityMetrics.Proofs.Calendar.Day
import ActivityMetrics.Proofs.Calendar.Reading
import ActivityMetrics.Proofs.Calendar.Stamp
import ActivityMetrics.Proofs.Calendar.TextOrder
import ActivityMetrics.Proofs.Decimal.Order
import ActivityMetrics.Proofs.Decimal.Whole
import ActivityMetrics.Proofs.Distinct
import ActivityMetrics.Proofs.Filter.Assignment
import ActivityMetrics.Proofs.Filter.Basic
import ActivityMetrics.Proofs.Filter.Request
import ActivityMetrics.Proofs.Metric.Affiliation
import ActivityMetrics.Proofs.Metric.Answers
import ActivityMetrics.Proofs.Metric.Attribution
import ActivityMetrics.Proofs.Metric.Backlog
import ActivityMetrics.Proofs.Metric.BacklogRanking
import ActivityMetrics.Proofs.Metric.BacklogTrend
import ActivityMetrics.Proofs.Metric.Binding
import ActivityMetrics.Proofs.Metric.Clauses
import ActivityMetrics.Proofs.Metric.CommitOrder
import ActivityMetrics.Proofs.Metric.Conjunction
import ActivityMetrics.Proofs.Metric.DrillDown
import ActivityMetrics.Proofs.Metric.Events
import ActivityMetrics.Proofs.Metric.Exclusion
import ActivityMetrics.Proofs.Metric.Marks
import ActivityMetrics.Proofs.Metric.Memberships
import ActivityMetrics.Proofs.Metric.NamedWindow
import ActivityMetrics.Proofs.Metric.Narrowing
import ActivityMetrics.Proofs.Metric.Partition
import ActivityMetrics.Proofs.Metric.PlainTrend
import ActivityMetrics.Proofs.Metric.Projects
import ActivityMetrics.Proofs.Metric.Query
import ActivityMetrics.Proofs.Metric.Ranking
import ActivityMetrics.Proofs.Metric.Relinking
import ActivityMetrics.Proofs.Metric.Reloading
import ActivityMetrics.Proofs.Metric.Renaming
import ActivityMetrics.Proofs.Metric.Restriction
import ActivityMetrics.Proofs.Metric.Rows
import ActivityMetrics.Proofs.Metric.SameAnswers
import ActivityMetrics.Proofs.Metric.Scope
import ActivityMetrics.Proofs.Metric.SeriesCut
import ActivityMetrics.Proofs.Metric.Timely
import ActivityMetrics.Proofs.Metric.Trend
import ActivityMetrics.Proofs.Metric.Windows
import ActivityMetrics.Proofs.Outcome
import ActivityMetrics.Proofs.Period.Axis
import ActivityMetrics.Proofs.Period.Expression
import ActivityMetrics.Proofs.Period.Partition
import ActivityMetrics.Proofs.Query.Fragments
import ActivityMetrics.Proofs.Query.Limits
import ActivityMetrics.Proofs.Query.Marks
import ActivityMetrics.Proofs.Query.Matches
import ActivityMetrics.Proofs.Query.Names
import ActivityMetrics.Proofs.Query.OrderedSets
import ActivityMetrics.Proofs.Query.Renaming
import ActivityMetrics.Proofs.Query.Slots
import ActivityMetrics.Proofs.Query.Statement
import ActivityMetrics.Proofs.Query.StoredTime
import ActivityMetrics.Proofs.Query.Wording
import ActivityMetrics.Proofs.Result.Alignment
import ActivityMetrics.Proofs.Result.Answer
import ActivityMetrics.Proofs.Result.ByItem
import ActivityMetrics.Proofs.Result.Columns
import ActivityMetrics.Proofs.Result.Completion
import ActivityMetrics.Proofs.Result.Items
import ActivityMetrics.Proofs.Result.RowSet
import ActivityMetrics.Proofs.Settings
import ActivityMetrics.Proofs.Text.Blank
import ActivityMetrics.Proofs.Text.Bytes
import ActivityMetrics.Proofs.Text.Padded
import ActivityMetrics.Proofs.Warehouse.Descriptions
import ActivityMetrics.Proofs.Warehouse.Directories
import ActivityMetrics.Proofs.Warehouse.Edits
import ActivityMetrics.Proofs.Warehouse.Integrity
import ActivityMetrics.Proofs.Warehouse.Load
import ActivityMetrics.Proofs.Warehouse.Places
import ActivityMetrics.Proofs.Warehouse.Projects
import ActivityMetrics.Proofs.Warehouse.References
import ActivityMetrics.Proofs.Warehouse.Repetition
import ActivityMetrics.Proofs.Warehouse.Search
import ActivityMetrics.Proofs.Warehouse.StatusHistory
import ActivityMetrics.Proofs.Window
import ActivityMetrics.Proofs.Window.Whole
import ActivityMetrics.Query.Clause
import ActivityMetrics.Query.Event
import ActivityMetrics.Query.Fragments
import ActivityMetrics.Query.Limits
import ActivityMetrics.Query.Matching
import ActivityMetrics.Query.Parameter
import ActivityMetrics.Query.Phrase
import ActivityMetrics.Query.Statement
import ActivityMetrics.Query.StoredTime
import ActivityMetrics.Result.Answer
import ActivityMetrics.Result.Datum
import ActivityMetrics.Result.RowSet
import ActivityMetrics.Session
import ActivityMetrics.Settings
import ActivityMetrics.Text.Blank
import ActivityMetrics.Text.CaseTable
import ActivityMetrics.Text.Digit
import ActivityMetrics.Text.Lossy
import ActivityMetrics.Text.Lowercase
import ActivityMetrics.Text.Ranges
import ActivityMetrics.Trend
import ActivityMetrics.Warehouse.Basic
import ActivityMetrics.Warehouse.Load
import ActivityMetrics.Warehouse.Lookup
import ActivityMetrics.Warehouse.Table
import ActivityMetrics.Window
