import Speedup.Failure
import Speedup.Files.Path
import Speedup.Settings.MetricOverride

/-!
# Settings in effect

What the work needs to know besides the command line. Everything has a default.

In the program: `ReportSettings` with `from_config` (`ofRoot`) and `select_metrics`.
-/

namespace Speedup

structure Settings where
  baseline : Option String
  outputFolder : Path
  excludedSuites : List String
  metrics : List Metric
  deriving DecidableEq, Repr

/-- Why settings cannot be used. -/
inductive SettingsProblem where
  | unreadable
  /-- What is said about metrics is no table of tables with texts and a precision. -/
  | badMetrics
  /-- A new metric lacks its criterion or its unit. -/
  | incompleteMetric (key : String)
  deriving DecidableEq, Repr

namespace SettingsProblem

/-- What whoever reads the documents at hand has to say about the ones that it refuses. -/
structure Wording where
  unreadable : String
  badMetrics : String

def unreadableText : String := "a configuration file is no valid document"

def badMetricsText : String := "metrics are tables of texts with a number for the precision"

/-- The words of the program that runs. -/
def Wording.standard : Wording := ⟨unreadableText, badMetricsText⟩

def message (problem : SettingsProblem) (wording : Wording := .standard) : String :=
  match problem with
  | unreadable => wording.unreadable
  | badMetrics => "Invalid metric configuration: " ++ wording.badMetrics
  | incompleteMetric key =>
    "Metric '" ++ key ++ "' needs both 'criterion' and 'unit' to be configured"

end SettingsProblem

namespace Settings

def defaultOutputFolder : Path := "bench-report"

def default : Settings := ⟨none, defaultOutputFolder, [], Metric.builtIn⟩

def reportField? (root : Setting) (name : String) : Option Setting :=
  (root.field? "report").bind (·.field? name)

def overrides (root : Setting) : Except SettingsProblem (Ordered.Table String MetricOverride) :=
  match root.field? "metric" with
  | none => .ok .empty
  | some s =>
    match MetricOverride.tableOf? s with
    | some overrides => .ok overrides
    | none => .error .badMetrics

/-- The settings in effect. What cannot be read counts as not said, except for metrics. -/
def ofRoot (root : Setting) : Except SettingsProblem Settings := do
  let overrides ← overrides root
  match MetricOverride.merge Metric.builtIn overrides with
  | .error key => .error (.incompleteMetric key)
  | .ok metrics =>
    .ok {
      baseline := (reportField? root "baseline").bind Setting.text?
      outputFolder :=
        ((reportField? root "output_dir").bind Setting.text?).getD defaultOutputFolder
      excludedSuites :=
        ((reportField? root "exclude_suites").bind Setting.texts?).getD []
      metrics }

/-! ## Choosing metrics -/

def unknownMetric (s : Settings) (key : String) : Failure :=
  .plain ("Unknown metric '" ++ key ++ "'. Known metrics: " ++
    String.intercalate ", " (s.metrics.map (·.key)))

/-- The metrics with the given keys in report order; without keys all metrics. -/
def selectMetrics (s : Settings) (keys : List String) : Except Failure (List Metric) :=
  match keys.find? fun key => !s.metrics.any (·.key == key) with
  | some key => .error (s.unknownMetric key)
  | none => .ok (s.metrics.filter fun m => keys.isEmpty || keys.contains m.key)

end Settings

end Speedup
