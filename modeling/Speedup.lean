import Speedup.Main
import Speedup.ObservationTable.Synthetic
import Speedup.ObservationTable.Writer
import Speedup.Proofs.Comparison.KeyOrder
import Speedup.Proofs.Double.Order
import Speedup.Proofs.Ordered.Lookup
import Speedup.Proofs.Ordered.StableSort
import Speedup.Proofs.Grouping
import Speedup.Proofs.Comparison.DenseRank
import Speedup.Proofs.Comparison.Standings
import Speedup.Proofs.Comparison.Contents
import Speedup.Proofs.Double.Division
import Speedup.Proofs.Comparison.Wins
import Speedup.Proofs.Comparison.Independence
import Speedup.Proofs.RowOrder
import Speedup.Proofs.Report.Kept
import Speedup.Proofs.Report.Environments
import Speedup.Proofs.Comparison.Observed
import Speedup.Proofs.Files.Contents
import Speedup.Proofs.Report.Listing
import Speedup.Proofs.Files.Making
import Speedup.Proofs.Report.Success
import Speedup.Proofs.Report.Subtrees
import Speedup.Proofs.Report.Statistics
import Speedup.Proofs.Overview
import Speedup.Proofs.Report.Skipped
import Speedup.Proofs.Files.Parts
import Speedup.Proofs.Files.Fewer
import Speedup.Proofs.Report.Fewer
import Speedup.Proofs.Text.Utf8
import Speedup.Proofs.Text.Blank
import Speedup.Proofs.Csv.Records
import Speedup.Proofs.ObservationTable.Acceptance
import Speedup.Proofs.ObservationTable.Layout
import Speedup.Proofs.Double.Exact
import Speedup.Proofs.Text.Digits
import Speedup.Proofs.Decimal.RoundTrip
import Speedup.Proofs.ObservationTable.RoundTrip
import Speedup.Proofs.Report.Agreement
import Speedup.Proofs.CommandLine.Preparation
import Speedup.Proofs.Settings.Merging
import Speedup.Proofs.Settings.Overrides
import Speedup.Proofs.Settings.Documents
import Speedup.Proofs.Settings.Precedence
import Speedup.Proofs.Double.Value
import Speedup.Proofs.Sample.Mean
import Speedup.Proofs.Tables.Cells
import Speedup.Proofs.Tables.Undefined
import Speedup.Proofs.Comparison.Median
import Speedup.Proofs.Grouping.Partition
import Speedup.Proofs.Comparison.BarOrder
import Speedup.Proofs.Chart.Panel
import Speedup.Proofs.Decimal.Denotation
import Speedup.Proofs.Decimal.Nearest
import Speedup.Proofs.ObservationTable.WholeNumbers
import Speedup.Proofs.Grouping.Environments
import Speedup.Proofs.Text.Align
import Speedup.Proofs.Pivot
import Speedup.Proofs.Settings.Merged
import Speedup.Proofs.Text.Substitution
import Speedup.Proofs.Page
import Speedup.Proofs.Quantity.Reading
import Speedup.Proofs.Quantity.Counts
import Speedup.Proofs.Overview.Columns
import Speedup.Proofs.Chart.Subplots
import Speedup.Proofs.Comparison.Baseline
import Speedup.Proofs.Sample.Exact
import Speedup.Proofs.Chart.Baseline
import Speedup.Proofs.CommandLine.Names
import Speedup.Proofs.Files.Sequences
import Speedup.Proofs.Sample.Middle
import Speedup.Proofs.Comparison.Consistency
import Speedup.Proofs.Sample.GeometricMean
import Speedup.Proofs.Sample.GeometricMean
