import Speedup.Grouping

/-!
# Means by benchmark and executable

The table of means that a comparison starts from, and the mean of every executable over all its
benchmarks.

In the program: `bench_means` (`BenchMeans.ofRows`) and `overall_means`.
-/

namespace Speedup

open Ordered

/-- The mean of every executable on every benchmark. -/
abbrev BenchMeans := Table String (Table String Double)

namespace BenchMeans

def ofRows (rows : List Observation) : BenchMeans :=
  let cells := (Grouping.means Grouping.cell rows).entries
  (Table.group (cells.map fun (k, m) => (k.first, (k.second, m)))).map fun _ row =>
    Table.ofList row

def byExe (means : BenchMeans) : Table String (List Double) :=
  Table.group (means.values.flatMap (·.entries))

def overall (means : BenchMeans) : Table String Double :=
  means.byExe.filterMap fun _ xs => Sample.mean xs

end BenchMeans

end Speedup
