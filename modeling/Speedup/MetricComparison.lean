import Speedup.Overview
import Speedup.Tables
import Speedup.Log

/-!
# Comparisons by metric

Every metric is compared on its own observations. Without observations of the baseline there is no
comparison.

In the program: `comparisons` (`MetricComparison.all`) and what `TextReporter`, `CsvReporter` and
`PlotlyReporter` make of them.
-/

namespace Speedup

/-- A metric, the observations that measure it, and their comparison. -/
structure MetricComparison where
  metric : Metric
  rows : List Observation
  comparison : Option Comparison

namespace MetricComparison

def ofRows (rows : List Observation) (baseline : String) (metric : Metric) : MetricComparison :=
  ⟨metric, metric.select rows, Comparison.ofRows (metric.select rows) baseline⟩

def all (rows : List Observation) (metrics : List Metric) (baseline : String) :
    List MetricComparison :=
  metrics.map (ofRows rows baseline)

def log (baseline : String) (m : MetricComparison) : List Log.Entry :=
  if m.rows.isEmpty then [⟨.debug, .reporting, "No observations for metric " ++ m.metric.key⟩]
  else if m.comparison.isNone then
    [⟨.warn, .reporting, "Baseline '" ++ baseline ++ "' has no observations for metric " ++
      m.metric.key ++ ", skipping comparison"⟩]
  else []

def overview (all : List MetricComparison) : String :=
  Overview.blocks (all.map fun m => (m.metric.key, m.comparison))

def table (all : List MetricComparison) : String :=
  Tables.combined (all.filterMap fun m => m.comparison.map fun c => (m.metric.key, c))

def drawn (all : List MetricComparison) : List (Metric × Option Comparison) :=
  all.map fun m => (m.metric, m.comparison)

end MetricComparison

end Speedup
