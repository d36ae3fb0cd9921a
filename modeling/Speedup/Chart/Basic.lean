import Speedup.BenchSummary
import Speedup.Decimal.Fixed
import Speedup.Metric
import Speedup.Quantity.Scale

/-!
# Charts

A chart is a page with one or more plots in a grid. What is drawn is a list of traces, each in one
of the plots; plot number `i` of the grid has the `i`-th pair of axes. Horizontal traces list
their executables from bottom to top.

In the program: `MAX_SUBPLOTS` (`maxPlots`), `format_ratio` (`ratio`), `format_pct_vs_baseline`
(`gainLabel`), `environments_label` and `placeholder`.
-/

namespace Speedup

inductive Axis where
  /-- Drawn, perhaps with a title; `autoMargin` makes room for long labels. -/
  | shown (title : Option String) (autoMargin : Bool)
  | hidden
  deriving DecidableEq, Repr

structure MeanPoint where
  exe : String
  mean : Double
  label : String
  hover : String
  deriving DecidableEq, Repr

structure RankBar where
  exe : String
  value : Double
  label : String
  deriving DecidableEq, Repr

inductive Trace where
  | box (exe : String) (values : List Double)
  | means (points : List MeanPoint)
  | bars (name : Option String) (bars : List RankBar)
  /-- Vertical bars of an executable, one for every benchmark it has a median for. -/
  | columns (exe : String) (benches : List String) (medians : List (Option Double))
  | labels (bars : List RankBar)
  | remark (text : String)
  deriving DecidableEq, Repr

/-- A vertical line at the mean of the baseline, with a text above it. -/
structure BaselineLine where
  mean : Double
  label : String
  deriving DecidableEq, Repr

structure Grid where
  rows : Nat
  columns : Nat
  deriving DecidableEq, Repr

structure Chart where
  title : String
  heading : String
  height : Nat
  /-- Absent for a single plot outside of a grid. -/
  grid : Option Grid
  legend : Bool
  /-- Whether bars of one place stand side by side. -/
  grouped : Bool
  /-- The axes of every plot, the horizontal one first. -/
  axes : List (Axis × Axis)
  baselineLine : Option BaselineLine
  /-- The number of a plot and what is drawn in it. -/
  traces : List (Nat × Trace)
  deriving DecidableEq, Repr

namespace Chart

/-- The number of plots that a chart can hold. -/
def maxPlots : Nat := 8

def plainAxis : Axis := .shown none true

def titledAxis (title : String) : Axis := .shown (some title) false

/-! ## Texts -/

def ratio (x : Double) : String := if x.isFinite then Decimal.fixed 3 x ++ "x" else "n/a"

def gainLabel (gain : Double) : String :=
  if gain.isFinite then
    let sign := if gain.lt 0 then "-" else "+"
    " (" ++ sign ++ Decimal.fixed 1 (gain.abs * 100) ++ "% vs base)"
  else ""

def environmentsLabel (rows : List Observation) : String :=
  String.intercalate ", " (Grouping.environments rows)

def benchTitle (bench : String) (rows : List Observation) : String :=
  bench ++ " | Environment(s): " ++ environmentsLabel rows

/-! ## Placeholder -/

def placeholder (name : String) : Chart :=
  let text := "No data for " ++ name
  { title := text, heading := text, height := 300, grid := none, legend := true, grouped := false
    axes := [(.hidden, .hidden)], baselineLine := none, traces := [(0, .remark text)] }

end Chart

end Speedup
