import MetricBench.SortedMap
import MetricBench.Text.Blank
import MetricBench.Text.Quoted
import MetricBench.Unicode.CaseFolding
import MetricBench.Number.Conversion
import MetricBench.Number.Order
import MetricBench.Number.Remainder
import MetricBench.Number.SampleValue
import MetricBench.Time.Duration
import MetricBench.Time.Clock
import MetricBench.Time.Instant
import MetricBench.Series
import MetricBench.Exposition.Reader
import MetricBench.Exposition.Writer
import MetricBench.Edit.TimestampMode
import MetricBench.Query.Error
import MetricBench.Regex.PropertyName
import MetricBench.Regex.Node
import MetricBench.Regex.Class
import MetricBench.Matcher
import MetricBench.Edit.SeriesFilter
import MetricBench.Store.Select
import MetricBench.Edit.Load
import MetricBench.Edit.Rename
import MetricBench.Edit.Retain
import MetricBench.Edit.Save
import MetricBench.Edit.Seed
import MetricBench.QueryResponse
import MetricBench.Query.Lexer
import MetricBench.Query.Signature
import MetricBench.Query.Parser
import MetricBench.Query.Engine
import MetricBench.Rules.Pass
import MetricBench.Main
import MetricBench.Number.RandomWord
import MetricBench.Proofs.Store.Filing
import MetricBench.Proofs.Session.Run
import MetricBench.Proofs.Query.RangeSteps
import MetricBench.Proofs.Store.Observation
import MetricBench.Proofs.Edit.SnapshotRoundTrip
import MetricBench.Proofs.Query.Observation
import MetricBench.Proofs.Store.Selection
import MetricBench.Proofs.Rules.Pass
import MetricBench.Proofs.Store.Shift
import MetricBench.Proofs.Query.ShiftedValues
import MetricBench.Proofs.Query.ShiftedCalls
import MetricBench.Proofs.Query.TimeShift
import MetricBench.Proofs.Edit.Restamp
import MetricBench.Proofs.Edit.InPlace
import MetricBench.Edit.InPlace
import MetricBench.Proofs.Rules.InPlace
import MetricBench.Proofs.Prompt.Failure
import MetricBench.Proofs.Query.Unrelated
import MetricBench.Proofs.Rules.Exchange
import MetricBench.Proofs.Query.LabelSources
import MetricBench.Proofs.Query.SelectorMeaning
import MetricBench.Proofs.Rules.Mirror
import MetricBench.Proofs.Query.LabelNames
import MetricBench.Proofs.Exposition.WritableInput
import MetricBench.Proofs.Edit.Writable
import MetricBench.Proofs.Rules.Writable
import MetricBench.Proofs.Edit.SnapshotObservations
import MetricBench.Proofs.Session.Snapshots
import MetricBench.Proofs.Edit.FilteredTransfer
import MetricBench.Proofs.Edit.StampedTransfer
import MetricBench.Proofs.Query.GroupedMatching
import MetricBench.Proofs.Query.ResultTypes
import MetricBench.Proofs.Query.ResultTimestamps
import MetricBench.Proofs.Query.Parentheses
import MetricBench.Proofs.Edit.AtomicLoad
import MetricBench.Proofs.Edit.Removal
import MetricBench.Proofs.Edit.Renaming
import MetricBench.Proofs.Edit.Seeding
import MetricBench.Proofs.Edit.JoinedText
import MetricBench.Proofs.Store.Windows
import MetricBench.Proofs.Query.SelectedWindows
import MetricBench.Proofs.Query.NewestSamples
import MetricBench.Proofs.Query.OwnInstant
import MetricBench.Proofs.Query.StepLimit
import MetricBench.Proofs.Query.OneToOne
import MetricBench.Proofs.Query.DistinctMatches
import MetricBench.Proofs.Query.SetOperators
import MetricBench.Proofs.Query.ComplementaryNames
import MetricBench.Proofs.Query.Groups
import MetricBench.Proofs.Query.Aggregations
import MetricBench.Proofs.Query.ExtremeElements
import MetricBench.Proofs.Exposition.HelpReadBack
import MetricBench.Proofs.Rules.Recorded
import MetricBench.Proofs.Time.InstantText
import MetricBench.Proofs.Regex.WholePatterns
import MetricBench.Proofs.Prompt.Options
import MetricBench.Proofs.Rules.Activation
import MetricBench.Proofs.Query.Absence
import MetricBench.Proofs.Query.Quantiles
import MetricBench.Proofs.Query.ExtremeValues
import MetricBench.Proofs.Query.CounterIncrease
import MetricBench.Proofs.Number.ExactSums
