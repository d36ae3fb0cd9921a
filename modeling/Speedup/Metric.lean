import Speedup.Observation
import Speedup.Decimal.Fixed
import Speedup.Text.Blank
import Speedup.Text.Letters

/-!
# Metrics

A metric is a criterion measured in a unit, together with the words and the precision it is shown
with. An observation belongs to a metric if criterion and unit agree without regard to blanks
around them and to the case of letters.

In the program: `MetricSpec`, `eq_normalized` (`sameName`), `matches` (`covers`), `select_metric`,
`format_value` (`display`) and `builtin_metrics`.
-/

namespace Speedup

/-- What is measured, in which unit, and how it is presented. -/
structure Metric where
  /-- The short name used on the command line and in file names. -/
  key : String
  criterion : String
  unit : String
  /-- The text at an axis. -/
  label : String
  /-- The text over a plot. -/
  title : String
  /-- The number of decimal places of a shown value. -/
  precision : Nat
  deriving DecidableEq, Repr

namespace Metric

/-- Whether two names agree without regard to blanks around them and to the case of letters. -/
def sameName (a b : String) : Bool := Text.sameLetters (Text.trim a) (Text.trim b)

def covers (metric : Metric) (o : Observation) : Bool :=
  sameName metric.criterion o.criterion && sameName metric.unit o.unit

def select (metric : Metric) (rows : List Observation) : List Observation :=
  rows.filter metric.covers

theorem mem_select {metric : Metric} {rows : List Observation} {o : Observation} :
    o ∈ metric.select rows ↔ o ∈ rows ∧ metric.covers o = true := by
  simp [select]

def writtenUnits : List String := ["ms", "s", "us", "ns"]

/-- A value with the metric's precision, followed by the unit if it is one of time. -/
def display (metric : Metric) (x : Double) : String :=
  if x.isFinite then
    let text := Decimal.fixed metric.precision x
    if metric.unit ∈ writtenUnits then text ++ " " ++ metric.unit else text
  else "n/a"

/-! ## The metrics known from the start -/

def time : Metric := ⟨"time_ms", "total", "ms", "Execution time (ms)", "Total time", 2⟩
def bytes : Metric := ⟨"bytes", "Allocated", "bytes", "Allocated (bytes)", "Allocated bytes", 0⟩
def gcTime : Metric := ⟨"gc_time_ms", "GC time", "ms", "GC time (ms)", "GC time", 2⟩
def gcCount : Metric := ⟨"gc_count", "GC count", "n", "GC count (n)", "GC count", 0⟩

/-- The metrics that need no configuration, in report order. -/
def builtIn : List Metric := [time, bytes, gcTime, gcCount]

def defaultPrecision : Nat := 2

end Metric

end Speedup
