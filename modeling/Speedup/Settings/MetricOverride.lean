import Speedup.Metric
import Speedup.Ordered.Table
import Speedup.Settings.Setting

/-!
# Metrics in settings

Settings change the metrics that are known from the start and add further ones, which need a
criterion and a unit.

In the program: `MetricOverride` and `merge_metrics` (`merge`).
-/

namespace Speedup

open Ordered

structure MetricOverride where
  criterion : Option String
  unit : Option String
  label : Option String
  title : Option String
  precision : Option Nat
  deriving DecidableEq, Repr

namespace MetricOverride

def fieldOf? {α : Type} (s : Setting) (name : String) (read : Setting → Option α) :
    Option (Option α) :=
  match s.field? name with
  | none => some none
  | some .absent => some none
  | some v => (read v).map some

/-- What a table says about a metric, if all its fields can be read. -/
def ofSetting? (s : Setting) : Option MetricOverride :=
  match s with
  | .table _ => do
    let criterion ← fieldOf? s "criterion" Setting.text?
    let unit ← fieldOf? s "unit" Setting.text?
    let label ← fieldOf? s "label" Setting.text?
    let title ← fieldOf? s "title" Setting.text?
    let precision ← fieldOf? s "precision" Setting.natural?
    some { criterion, unit, label, title, precision }
  | _ => none

def tableOf? (s : Setting) : Option (Table String MetricOverride) :=
  match s with
  | .table fields =>
    (fields.mapM fun f => (ofSetting? f.2).map fun o => (f.1, o)).map Table.ofList
  | _ => none

def applyTo (o : MetricOverride) (m : Metric) : Metric :=
  { m with
    criterion := o.criterion.getD m.criterion
    unit := o.unit.getD m.unit
    label := o.label.getD m.label
    title := o.title.getD m.title
    precision := o.precision.getD m.precision }

def newMetric? (key : String) (o : MetricOverride) : Option Metric := do
  let criterion ← o.criterion
  let unit ← o.unit
  some {
    key, criterion, unit
    label := o.label.getD (criterion ++ " (" ++ unit ++ ")")
    title := o.title.getD criterion
    precision := o.precision.getD Metric.defaultPrecision }

def applyFirst (key : String) (o : MetricOverride) : List Metric → List Metric
  | [] => []
  | m :: rest => if m.key = key then o.applyTo m :: rest else m :: applyFirst key o rest

/-- Metrics changed and extended by settings. The failure is the least key that is new and lacks
criterion or unit. -/
def merge (metrics : List Metric) (overrides : Table String MetricOverride) :
    Except String (List Metric) :=
  overrides.entries.foldlM (fun metrics (key, o) =>
    if metrics.any (·.key == key) then .ok (applyFirst key o metrics)
    else
      match newMetric? key o with
      | some m => .ok (metrics ++ [m])
      | none => .error key) metrics

end MetricOverride

end Speedup
