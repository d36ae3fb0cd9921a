import Speedup.Grouping

/-!
# Executables of one benchmark

The executables measured on one benchmark, fastest first, each with its statistics and its
distance from the baseline.

In the program: `bench_summary` (`ExeSummary.ofRows`) and `exe_order_by_mean` (`exesByMean`).
-/

namespace Speedup

open Ordered

structure ExeSummary where
  exe : String
  stats : Stats
  /-- How much faster than the baseline: the baseline's mean over the mean, less one. A NaN
  where the baseline has no values. -/
  gain : Double
  deriving DecidableEq, Repr

namespace ExeSummary

def gainOver (baseline? : Option Double) (mean : Double) : Double :=
  match baseline? with
  | some b => b / mean - 1
  | none => Stats.undefined

/-- Summaries of the observations of one benchmark by ascending mean; equal means stay in the
order of names. -/
def ofRows (baseline : String) (rows : List Observation) : List ExeSummary :=
  let stats := Grouping.stats (·.exe) rows
  let reference := (stats.get? baseline).map (·.mean)
  (stats.entries.map fun (exe, s) => (⟨exe, s, gainOver reference s.mean⟩ : ExeSummary)).mergeSort
    fun a b => a.stats.mean.totalLE b.stats.mean

/-- Names by ascending mean; equal means stay in the order of names. -/
def exesByMean (rows : List Observation) : List String :=
  ((Grouping.means (·.exe) rows).entries.mergeSort fun a b => a.2.totalLE b.2).map (·.1)

end ExeSummary

end Speedup
