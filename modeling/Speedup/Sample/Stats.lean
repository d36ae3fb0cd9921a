import Speedup.Sample.Basic
import Speedup.Decimal.Readable

/-!
# Summary of a sample of doubles

The numbers shown for a group of values, where what is not defined is a NaN.

In the program: `Stats` with `from_values` (`ofValues`), `cov` and `fmt` (`line`), and
`geometric_mean`.
-/

namespace Speedup

structure Stats where
  mean : Double
  median : Double
  /-- The sample standard deviation, a NaN for less than two values. -/
  std : Double
  min : Double
  max : Double
  n : Nat
  deriving DecidableEq, Repr

namespace Stats

def undefined : Double := Double.nan false

/-- The statistics of a sample; a sample without values has none. Values that are no numbers do
not count for the extremes. -/
def ofValues (xs : List Double) : Option Stats := do
  let mean ← Sample.mean xs
  let median ← Sample.median xs
  some {
    mean, median
    std := ((Sample.variance xs).map Double.sqrt).getD undefined
    min := (Sample.least xs).getD (Double.infinity false)
    max := (Sample.greatest xs).getD (Double.infinity true)
    n := xs.length }

def cov (s : Stats) : Double := s.std / s.mean

def line (s : Stats) : String :=
  "μ: " ++ Decimal.readable s.mean ++ " median: " ++ Decimal.readable s.median ++
    " σ: " ++ Decimal.readable s.std ++ " n: " ++ Text.grouped s.n

end Stats

def geometricMean (xs : List Double) : Double := (Sample.geometricMean xs).getD Stats.undefined

end Speedup
