import Speedup.BenchSummary
import Speedup.Comparison.Basic
import Speedup.Csv.Writer
import Speedup.Decimal.Style

/-!
# Tables of statistics

The tables written as comma-separated values: the executables of one benchmark, all benchmarks of
a metric, and the rankings. A statistic that is not defined is an empty cell.

In the program: `defined`, `bench_summary_csv`, `write_master_summary`, `overall_csv`,
`combined_overall_csv` and `file_stem`.
-/

namespace Speedup.Tables

open Ordered

def number (x : Double) : String := Decimal.Style.cell.text x

def defined (x : Double) : String := if x.isNaN then "" else number x

/-! ## Statistics -/

def benchHeader : List String :=
  ["exe", "mean", "median", "std", "min", "max", "n", "pct_vs_baseline", "cov"]

def benchRow (s : ExeSummary) : List String :=
  [s.exe, number s.stats.mean, number s.stats.median, defined s.stats.std, number s.stats.min,
    number s.stats.max, Nat.repr s.stats.n, defined s.gain, defined s.stats.cov]

def bench (summaries : List ExeSummary) : String := Csv.table benchHeader (summaries.map benchRow)

def masterHeader : List String := ["bench", "exe", "mean", "median", "std", "min", "max", "n"]

def masterRow (cell : Pair String String) (s : Stats) : List String :=
  [cell.first, cell.second, number s.mean, number s.median, defined s.std, number s.min,
    number s.max, Nat.repr s.n]

def master (rows : List Observation) : String :=
  let stats := Grouping.stats Grouping.cell rows
  Csv.table masterHeader (stats.entries.map fun (k, s) => masterRow k s)

/-! ## Rankings -/

def overallHeader : List String :=
  ["rank", "exe", "geo_mean_speedup_vs_baseline", "median_speedup_vs_baseline", "win_rate"]

def overallRow (r : Ranked) : List String :=
  [Nat.repr r.rank, r.exe, defined r.geoMean, defined r.median, number r.winRate]

def overall (c : Comparison) : String := Csv.table overallHeader (c.ranking.map overallRow)

/-- The rankings of several metrics, each row with the key of its metric in front. -/
def combined (comparisons : List (String × Comparison)) : String :=
  Csv.table ("metric" :: overallHeader) <|
    comparisons.flatMap fun (key, c) => c.ranking.map fun r => key :: overallRow r

/-! ## File names -/

/-- A name as the name of a file: what separates paths becomes an underscore. -/
def fileStem (name : String) : String :=
  String.ofList (name.toList.map fun c => if c = '/' || c = '\\' || c = ':' then '_' else c)

end Speedup.Tables
