import Speedup.Collapsed
import Speedup.Comparison.Basic
import Speedup.Metric
import Speedup.Pivot
import Speedup.Quantity.Scale
import Speedup.Text.Align

/-!
# Text on the console

The rankings, collapsed medians and pivots as plain text.

In the program: `format_overall_block` (`block`), `format_overall_summary`,
`format_collapsed_table`, `format_pivot_table` and `summary_text`.
-/

namespace Speedup.Overview

/-! ## Rankings -/

/-- A number with some places, at least six characters wide. -/
def wide (places : Nat) (x : Double) : String := Text.alignRight 6 (Decimal.fixed places x)

/-- The line of one executable; the baseline is marked. -/
def rankedLine (c : Comparison) (r : Ranked) : String :=
  " " ++ Text.alignRight 2 (Nat.repr r.rank) ++ ". " ++ Text.alignLeft 24 r.exe ++
    " gmean (x) vs base: " ++ wide 3 r.geoMean ++ " | median (x): " ++ wide 3 r.median ++
    " | best (winning) rate: " ++ wide 1 (r.winRate * 100) ++ "% " ++
    (if c.isBaseline r.exe then "   (baseline)" else "")

def block (key : String) (comparison : Option Comparison) : String :=
  let header := "=== OVERALL PERFORMANCE | " ++ key ++ " ==="
  match comparison with
  | none => header ++ "\n(no result)\n"
  | some c =>
    if c.ranking.isEmpty then header ++ "\n(no result)\n"
    else String.intercalate "\n" (header :: c.ranking.map (rankedLine c)) ++ "\n"

def blocks (metrics : List (String × Option Comparison)) : String :=
  String.intercalate "\n" (metrics.map fun (key, c) => block key c)

/-! ## Tables -/

def collapsedHeader (metric : Metric) : List String :=
  ["suite", "bench", "inputsize", "exe", "median_" ++ metric.unit, "human"]

def collapsedRow (metric : Metric) (r : Collapsed) : List String :=
  [r.suite, r.bench, (r.inputsize.map Int.repr).getD "-", r.exe,
    Decimal.fixed metric.precision r.median, (Quantity.ofValue r.median metric.unit).humanize]

def collapsed (metric : Metric) (rows : List Collapsed) : String :=
  let title := "***** Collapsed " ++ metric.key ++ " summary (per bench/exe/suite/inputsize) *****"
  if rows.isEmpty then title ++ "\n(no data)\n"
  else
    title ++ "\n" ++ Text.table (collapsedHeader metric) (rows.map (collapsedRow metric)) ++ "\n"

def pivotRow (metric : Metric) (p : Pivot) (bench : String) : List String :=
  bench :: p.exes.map fun exe =>
    ((p.get? bench exe).map (Decimal.fixed metric.precision)).getD "-"

def pivot (metric : Metric) (p : Pivot) : String :=
  let title := "***** " ++ metric.label ++ " median per bench and exe *****"
  if p.isEmpty then title ++ "\n(no data)\n"
  else
    title ++ "\n" ++ Text.table ("bench" :: p.exes) (p.benches.map (pivotRow metric p)) ++ "\n"

def medians (metric : Metric) (rows : List Observation) : String :=
  collapsed metric (Collapsed.ofRows rows) ++ "\n" ++ pivot metric (Pivot.ofRows rows)

def summary (metrics : List Metric) (rows : List Observation) : String :=
  String.intercalate "\n" (metrics.map fun m => medians m (m.select rows))

end Speedup.Overview
