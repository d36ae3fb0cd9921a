import Speedup.Chart.Basic
import Speedup.Log

/-!
# Box plots

The values of one benchmark: a box for every executable, the fastest on top, and a marker at every
mean. A panel shows several metrics of a benchmark side by side.

In the program: `values_of`, `add_boxes` (`boxTraces`), `baseline_marker`, `bench_box_plot` (`box?`)
and `bench_panel` (`panel?`).
-/

namespace Speedup.Chart

def valuesOf (rows : List Observation) (exe : String) : List Double :=
  (rows.filter (·.exe == exe)).filterMap (·.value)

/-- The executables that have values, with their values and statistics, in the given order. -/
def boxesOf (rows : List Observation) (exes : List String) : List (String × List Double × Stats) :=
  exes.filterMap fun exe =>
    (Stats.ofValues (valuesOf rows exe)).map fun s => (exe, valuesOf rows exe, s)

/-- Boxes and mean markers. The executables are given from top to bottom. -/
def boxTraces (metric : Metric) (rows : List Observation) (exes : List String)
    (label : String → Double → String) : List Trace :=
  let boxes := boxesOf rows exes.reverse
  boxes.map (fun (exe, values, _) => .box exe values) ++
    [.means (boxes.map fun (exe, _, s) =>
      { exe, mean := s.mean, label := label exe s.mean
        hover := exe ++ ": mean " ++ (Quantity.ofValue s.mean metric.unit).humanize })]

/-! ## One benchmark -/

def baselineLineAt (metric : Metric) (mean : Double) : BaselineLine :=
  ⟨mean, "Baseline mean: " ++ metric.display mean⟩

/-- The box plot of a benchmark; there is none without values. -/
def box? (metric : Metric) (bench : String) (rows : List Observation) (baseline : Option String) :
    Option Chart := do
  let summaries := ExeSummary.ofRows (baseline.getD "") rows
  let best ← summaries.head?
  let range ← Stats.ofValues (rows.filterMap (·.value))
  let exes := summaries.map (·.exe)
  let gain := fun exe => ((summaries.find? (·.exe == exe)).map (·.gain)).getD Stats.undefined
  let title := benchTitle bench rows
  let footer := "Best mean: " ++ best.exe ++ " - Range: " ++ metric.display range.min ++ "-" ++
    metric.display range.max
  let reference := baseline.bind fun b => summaries.find? (·.exe == b)
  some {
    title
    heading := title ++ "<br><sub>" ++ footer ++ "</sub>"
    height := max (80 * exes.length + 200) 320
    grid := none
    legend := false
    grouped := false
    axes := [(titledAxis metric.label, .shown (some "Interpreter") true)]
    baselineLine := reference.map fun s => baselineLineAt metric s.stats.mean
    traces := (boxTraces metric rows exes fun exe mean =>
      metric.display mean ++ gainLabel (gain exe)).map fun t => (0, t) }

/-! ## Several metrics of a benchmark -/

abbrev Slice := Metric × List Observation

def shownSlices (slices : List Slice) : List Slice :=
  slices.filter fun (_, rows) => rows.any (·.value.isSome)

/-- The slice that gives the order of executables: that of the time, or else the first one. -/
def orderSlice? (slices : List Slice) : Option Slice :=
  (slices.find? (·.1.key == Metric.time.key)) <|> slices.head?

/-- The panel of a benchmark; there is none without values. -/
def panel? (bench : String) (slices : List Slice) : Option Chart := do
  let slices := (shownSlices slices).take maxPlots
  let (_, ordering) ← orderSlice? slices
  let exes := ExeSummary.exesByMean ordering
  let title := benchTitle bench (slices.flatMap (·.2))
  let columns := if 1 < slices.length then 2 else 1
  let rows := (slices.length + columns - 1) / columns
  some {
    title
    heading := title
    height := rows * max (60 * exes.length + 160) 300
    grid := some ⟨rows, columns⟩
    legend := false
    grouped := false
    axes := slices.map fun (m, _) => (titledAxis (m.title ++ " | " ++ m.label), plainAxis)
    baselineLine := none
    traces := slices.zipIdx.flatMap fun ((m, rows), i) =>
      (boxTraces m rows exes fun _ mean => m.display mean).map fun t => (i, t) }

def panelLog (bench : String) (slices : List Slice) : List Log.Entry :=
  let count := (shownSlices slices).length
  if maxPlots < count then
    [⟨.warn, .charts, "Panel of " ++ bench ++ " shows the first " ++ Nat.repr maxPlots ++ " of " ++
      Nat.repr count ++ " metrics"⟩]
  else []

end Speedup.Chart
