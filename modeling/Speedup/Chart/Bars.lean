import Speedup.Chart.Basic
import Speedup.Comparison.Basic
import Speedup.Log
import Speedup.Pivot

/-!
# Bar charts

Medians of all benchmarks as groups of bars, and comparisons as horizontal bars with the best
executable on top.

In the program: `pivot_bar_chart` (`pivot?`), `ascending_by_gmean` (`bottomUp`), `ranking_bars`
(`rankBars`), `summary_chart`, `detailed_chart` and `dashboard`.
-/

namespace Speedup.Chart

open Ordered

/-! ## Medians -/

/-- The medians of a metric; there is no chart without any. -/
def pivot? (metric : Metric) (p : Pivot) : Option Chart :=
  if p.isEmpty then none
  else
    some {
      title := metric.label ++ " per benchmark"
      heading := metric.label
      height := 600
      grid := none
      legend := true
      grouped := true
      axes := [(.shown (some "Benchmark") true, titledAxis ("median (" ++ metric.unit ++ ")"))]
      baselineLine := none
      traces := p.exes.map fun exe =>
        (0, .columns exe p.benches (p.benches.map fun b => p.get? b exe)) }

/-! ## Rankings -/

/-- The rows of a ranking by ascending geometric mean, which are drawn from bottom to top. -/
def bottomUp (c : Comparison) : List Ranked :=
  c.ranking.mergeSort fun a b => a.geoMean.totalLE b.geoMean

def rankBars (rows : List Ranked) (value : Ranked → Double) (label : Ranked → String) :
    List RankBar :=
  rows.map fun r => ⟨r.exe, value r, label r⟩

def geoMeanBars (rows : List Ranked) : List RankBar :=
  rankBars rows (·.geoMean) fun r => ratio r.geoMean

def threePlots (title : String) (height : Nat) (titles : List String)
    (traces : List (Nat × Trace)) : Chart :=
  { title, heading := title, height, grid := some ⟨3, 1⟩, legend := false, grouped := false
    axes := titles.map fun t => (titledAxis t, plainAxis), baselineLine := none, traces }

def summary (metric : Metric) (comparison : Option Comparison)
    (overall : Table String Double) : Chart :=
  match comparison with
  | none => placeholder metric.key
  | some c =>
    let rows := bottomUp c
    let percent := fun r : Ranked => r.winRate * 100
    let mean := fun r : Ranked => (overall.get? r.exe).getD Stats.undefined
    let meanLabel := fun r : Ranked =>
      if (mean r).isFinite then
        metric.display (mean r) ++ " (" ++ (Quantity.ofValue (mean r) metric.unit).humanize ++ ")"
      else "n/a"
    threePlots (metric.key ++ " | " ++ metric.title) (3 * max (40 * rows.length + 120) 220)
      ["Geometric mean speedup vs baseline (x) | higher is better",
        "Winning rate across benches (%) | higher is better",
        "Overall mean (of bench means) by interpreter | " ++ metric.unit]
      [(0, .bars none (geoMeanBars rows)),
        (1, .bars none (rankBars rows percent fun r => Decimal.fixed 1 (percent r) ++ "%")),
        (2, .bars none (rankBars rows mean meanLabel))]

def speedupBox? (c : Comparison) (exe : String) : Option (String × List Double × Stats) :=
  (Stats.ofValues (c.finiteSpeedups exe)).map fun s => (exe, c.finiteSpeedups exe, s)

def speedupLabel (s : Stats) : String :=
  "min=" ++ Decimal.fixed 3 s.min ++ "x mean=" ++ Decimal.fixed 3 s.mean ++ "x median=" ++
    Decimal.fixed 3 s.median ++ "x max=" ++ Decimal.fixed 3 s.max ++ "x"

def detailed (metric : Metric) (comparison : Option Comparison) : Chart :=
  match comparison with
  | none => placeholder metric.key
  | some c =>
    let rows := bottomUp c
    let boxes := (rows.map (·.exe)).filterMap (speedupBox? c)
    threePlots (metric.key ++ " | " ++ metric.title ++ " (detailed)")
      (3 * max (40 * rows.length + 120) 240)
      ["Geometric mean speedup vs baseline (x) | higher is better",
        "Median speedup vs baseline (x) | higher is better",
        "Per-benchmark speedup vs baseline (x)"]
      ([(0, .bars none (geoMeanBars rows)),
        (1, .bars none (rankBars rows (·.median) fun r => ratio r.median))] ++
        boxes.map (fun (exe, values, _) => (2, .box exe values)) ++
        [(2, .labels (boxes.map fun (exe, _, s) => ⟨exe, s.max, speedupLabel s⟩))])

/-! ## Dashboard -/

def dashboardTrace (metric : Metric) : Option Comparison → Trace
  | some c => .bars (some metric.key) (geoMeanBars (bottomUp c))
  | none => .remark (metric.key ++ ": (no data)")

def dashboardAxes (metric : Metric) : Option Comparison → Axis × Axis
  | some _ => (titledAxis (metric.key ++ " | geometric mean speedup (x)"), plainAxis)
  | none => (.hidden, .hidden)

/-- The speedups of several metrics, a plot for each of the first ones. -/
def dashboard (metrics : List (Metric × Option Comparison)) : Chart :=
  let metrics := metrics.take maxPlots
  let title := "Overall speedup vs baseline (geometric mean)"
  let bars := fun c : Option Comparison => (c.map (·.ranking.length)).getD 1
  let rows := ((metrics.map fun (_, c) => bars c).max?).getD 1
  { title, heading := title
    height := max metrics.length 1 * max (40 * rows + 120) 220
    grid := some ⟨max metrics.length 1, 1⟩
    legend := false
    grouped := false
    axes := metrics.map fun (m, c) => dashboardAxes m c
    baselineLine := none
    traces := metrics.zipIdx.map fun ((m, c), i) => (i, dashboardTrace m c) }

def dashboardLog (metrics : List (Metric × Option Comparison)) : List Log.Entry :=
  if maxPlots < metrics.length then
    [⟨.warn, .charts, "Dashboard shows the first " ++ Nat.repr maxPlots ++ " of " ++
      Nat.repr metrics.length ++ " metrics"⟩]
  else []

end Speedup.Chart
