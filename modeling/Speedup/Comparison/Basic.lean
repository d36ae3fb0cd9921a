import Speedup.Comparison.Means
import Speedup.Comparison.Ranking

/-!
# Comparison with a baseline

On every benchmark that has a mean for the baseline, an executable's speedup is the baseline's
mean over its own, and the executables with the least mean win. A comparison ranks all executables
of these benchmarks by their speedups and wins.

In the program: `speedup` (`speedupOver`), `compare` (`Comparison.ofMeans`), `compare_observations`
(`Comparison.ofRows`), `speedups_of` (`finiteSpeedups`) and `is_baseline`.
-/

namespace Speedup

open Ordered

/-- The result of comparing all executables with a baseline. -/
structure Comparison where
  baseline : String
  /-- The benchmarks that have a mean for the baseline. -/
  benches : List String
  /-- The best first. -/
  ranking : List Ranked
  /-- Per executable, the speedup on every benchmark where it is defined. -/
  speedups : Table String (Table String Double)

namespace Comparison

/-! ## One benchmark -/

/-- The speedup of a mean; there is one only over a finite baseline above zero. -/
def speedupOver (baseline mean : Double) : Option Double :=
  if baseline.isFinite && Double.lt 0 baseline then some (baseline / mean) else none

/-- The least mean of a benchmark, a NaN aside. -/
def best (row : Table String Double) : Double :=
  (Sample.least row.values).getD (Double.infinity false)

def wins (row : Table String Double) (exe : String) : Bool :=
  (row.get? exe).any fun m => m.ieeeEq (best row)

def speedupIn (baseline exe : String) (row : Table String Double) : Option Double := do
  speedupOver (← row.get? baseline) (← row.get? exe)

/-! ## All benchmarks -/

def compared (means : BenchMeans) (baseline : String) : BenchMeans :=
  means.filter fun _ row => row.contains baseline

def exes (means : BenchMeans) : List String := distinct (means.values.flatMap (·.keys))

def speedupsIn (means : BenchMeans) (baseline exe : String) : Table String Double :=
  means.filterMap fun _ row => speedupIn baseline exe row

def unranked (means : BenchMeans) (baseline exe : String) : Ranked :=
  let speedups := (speedupsIn means baseline exe).values
  let won := (means.values.filter (wins · exe)).length
  { rank := 0, exe
    geoMean := geometricMean speedups
    median := (Sample.median (speedups.filter (!·.isNaN))).getD Stats.undefined
    winRate := Double.ofNat won / Double.ofNat means.entries.length }

/-- Compares all executables with the baseline, on the benchmarks that have a mean for it; without
any there is no comparison. -/
def ofMeans (means : BenchMeans) (baseline : String) : Option Comparison :=
  let means := compared means baseline
  if means.isEmpty then none
  else
    let exes := exes means
    some {
      baseline
      benches := means.keys
      ranking := Ranked.standings (exes.map (unranked means baseline))
      speedups := (Table.ofKeys exes (speedupsIn means baseline)).filter fun _ row => !row.isEmpty }

def ofRows (rows : List Observation) (baseline : String) : Option Comparison :=
  ofMeans (BenchMeans.ofRows rows) baseline

def speedup? (c : Comparison) (bench exe : String) : Option Double := do
  (← c.speedups.get? exe).get? bench

/-- The finite speedups of an executable, in the order of benchmarks. -/
def finiteSpeedups (c : Comparison) (exe : String) : List Double :=
  match c.speedups.get? exe with
  | some row => row.values.filter (·.isFinite)
  | none => []

def isBaseline (c : Comparison) (exe : String) : Bool := c.baseline == exe

end Comparison

end Speedup
