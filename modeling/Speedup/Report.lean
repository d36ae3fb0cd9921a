import Speedup.Chart.Boxes
import Speedup.Chart.Bars
import Speedup.Files.Document
import Speedup.MetricComparison

/-!
# Reports

The documents that tell of a set of observations, and where they are put: for every metric box
plots and tables of its benchmarks, panels of all metrics by benchmark, rankings, and charts over
all benchmarks. What is below `envs` repeats the first of these for every environment.

In the program: `from_file_name` (`OutputForm.ofPath?`), `write_output`, `compare`,
`write_metric_tree` (`metricSteps`), `write_bench_summaries`, `write_panels`, `write_chart` and
`report` (`steps`).
-/

namespace Speedup

/-! ## One document -/

inductive OutputForm where
  | text
  | table
  | page
  deriving DecidableEq, Repr

namespace OutputForm

def printPath : Path := "-"

def isPrint (p : Path) : Bool := p.components == printPath.components

def ofPath? (p : Path) : Option OutputForm :=
  if isPrint p then some .text
  else
    match p.extension?.map Text.lower with
    | some "txt" => some .text
    | some "csv" => some .table
    | some "html" => some .page
    | _ => none

end OutputForm

namespace Report

def comparisonNotes (baseline : String) (all : List MetricComparison) : List Step :=
  all.flatMap fun m => (m.log baseline).map .note

def comparisonSteps (all : List MetricComparison) (output : Path) : OutputForm → List Step
  | .text =>
    let text := MetricComparison.overview all
    if OutputForm.isPrint output then [.print text] else [.write [output] (.text text)]
  | .table => [.write [output] (.text (MetricComparison.table all))]
  | .page =>
    (Chart.dashboardLog (MetricComparison.drawn all)).map .note ++
      [.write [output] (.page (Chart.dashboard (MetricComparison.drawn all)))]

def formUnknown (output : Path) : Failure :=
  .plain ("Could not infer output format from '" ++ output ++ "', use '-', .txt, .csv or .html")

/-- Compares all metrics and writes one document. -/
def compare (rows : List Observation) (metrics : List Metric) (baseline : String)
    (output : Path) : List Step × Option Failure :=
  let all := MetricComparison.all rows metrics baseline
  let notes := comparisonNotes baseline all
  match OutputForm.ofPath? output with
  | none => (notes, some (formUnknown output))
  | some form => (notes ++ comparisonSteps all output form, none)

/-! ## Places -/

def pageName (stem : String) : String := stem ++ ".html"
def tableName (stem : String) : String := stem ++ ".csv"

def boxPlace (key bench : String) : List Path := [key, pageName (Tables.fileStem bench)]
def benchPlace (key bench : String) : List Path :=
  ["summaries", key, tableName (Tables.fileStem bench)]
def masterPlace (key : String) : List Path := ["summaries", tableName ("MASTER_" ++ key)]
def overallPlace (key : String) : List Path := ["summaries", tableName ("OVERALL_" ++ key)]
def pivotPlace (key : String) : List Path := ["pivots", pageName key]
def panelPlace (bench : String) : List Path := ["panels", pageName (Tables.fileStem bench)]
def summaryPlace (key : String) : List Path := [pageName ("summary_" ++ key)]
def detailedPlace (key : String) : List Path := [pageName ("summary_" ++ key ++ "_detailed")]
def dashboardPlace : List Path := [pageName "summary_dashboard"]
def textPlace : List Path := ["summary.txt"]
def environmentPlace (envid : String) : List Path := ["envs", Tables.fileStem envid]

/-! ## A metric and its benchmarks -/

def boxSteps (within : List Path) (metric : Metric) (rows : List Observation) (baseline : String)
    (bench : String) : List Step :=
  match Chart.box? metric bench (Observation.ofBench bench rows) (some baseline) with
  | some chart => [.write (within ++ boxPlace metric.key bench) (.page chart)]
  | none =>
    [.note ⟨.debug, .reporting, "No values for " ++ bench ++ " in metric " ++ metric.key⟩]

def benchSteps (place : List Path) (rows : List Observation) (baseline bench : String) :
    List Step :=
  let summaries := ExeSummary.ofRows baseline (Observation.ofBench bench rows)
  summaries.map (fun s =>
    .note ⟨.debug, .tables, bench ++ " " ++ s.exe ++ ": " ++ s.stats.line⟩) ++
    [.write place (.text (Tables.bench summaries))]

def benchTables (place : String → List Path) (rows : List Observation) (baseline : String) :
    List Step :=
  (Grouping.values (·.bench) rows).keys.flatMap fun bench =>
    benchSteps (place bench) rows baseline bench

/-- Box plots and tables of a metric, for all observations or those of an environment. -/
def metricSteps (root : Path) (within : List Path) (metric : Metric) (rows : List Observation)
    (baseline : String) : List Step :=
  if rows.isEmpty then
    [.note ⟨.debug, .reporting, "No observations for metric " ++ metric.key ++ " in " ++
      Path.below root within⟩]
  else
    (Grouping.benches rows).flatMap (boxSteps within metric rows baseline) ++
      benchTables (fun bench => within ++ benchPlace metric.key bench) rows baseline ++
      [.write (within ++ masterPlace metric.key) (.text (Tables.master rows))]

def panelSteps (within : List Path) (slices : List Chart.Slice) (bench : String) : List Step :=
  let slices := slices.map fun (m, rows) => (m, Observation.ofBench bench rows)
  (Chart.panelLog bench slices).map .note ++
    ((Chart.panel? bench slices).map fun chart =>
      Step.write (within ++ panelPlace bench) (.page chart)).toList

def panelsSteps (within : List Path) (metrics : List Metric) (rows : List Observation) :
    List Step :=
  let slices := metrics.map fun m => (m, m.select rows)
  (Grouping.benches (slices.flatMap (·.2))).flatMap (panelSteps within slices)

/-! ## The whole report -/

def chartSteps (place : List Path) (chart : Chart) : List Step :=
  [.note ⟨.debug, .reporting, "Rendering '" ++ chart.title ++ "'"⟩, .write place (.page chart)]

def valueSteps (root : Path) (baseline : String) (m : MetricComparison) : List Step :=
  metricSteps root [] m.metric m.rows baseline ++
    ((Chart.pivot? m.metric (Pivot.ofRows m.rows)).map
      (chartSteps (pivotPlace m.metric.key))).getD []

def rankingSteps (m : MetricComparison) : List Step :=
  let key := m.metric.key
  (m.comparison.map fun c => Step.write (overallPlace key) (.text (Tables.overall c))).toList ++
    chartSteps (summaryPlace key)
      (Chart.summary m.metric m.comparison (BenchMeans.overall (BenchMeans.ofRows m.rows))) ++
    chartSteps (detailedPlace key) (Chart.detailed m.metric m.comparison)

/-- The chart and the text about all metrics. The text is also printed. -/
def overallSteps (all : List MetricComparison) : List Step :=
  let text := MetricComparison.overview all
  (Chart.dashboardLog (MetricComparison.drawn all)).map .note ++
    chartSteps dashboardPlace (Chart.dashboard (MetricComparison.drawn all)) ++
    [.write textPlace (.text text), .print (text ++ "\n")]

def environmentSteps (root : Path) (rows : List Observation) (metrics : List Metric)
    (baseline envid : String) : List Step :=
  let rows := Observation.ofEnvironment envid rows
  let within := environmentPlace envid
  metrics.flatMap (fun m => metricSteps root within m (m.select rows) baseline) ++
    panelsSteps within metrics rows

/-- The report of all observations, without what is repeated for environments. -/
def mainSteps (root : Path) (rows : List Observation) (metrics : List Metric)
    (baseline : String) : List Step :=
  let all := MetricComparison.all rows metrics baseline
  comparisonNotes baseline all ++ all.flatMap (valueSteps root baseline) ++
    panelsSteps [] metrics rows ++ all.flatMap rankingSteps ++ overallSteps all

/-- A report below `root`. -/
def steps (root : Path) (rows : List Observation) (metrics : List Metric) (baseline : String)
    (environments : Bool) : List Step :=
  mainSteps root rows metrics baseline ++
    if environments then
      (Grouping.environments rows).flatMap (environmentSteps root rows metrics baseline)
    else []

end Report

end Speedup
