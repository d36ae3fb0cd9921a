import Speedup.Grouping

/-!
# Collapsed medians

The samples of one invocation are not independent of each other, so a series of measurements is
collapsed in two passes: first every invocation to its median, then the series to the median of
these. A missing invocation number counts as an invocation of its own.

In the program: `collapsed_medians` (`Collapsed.ofRows`).
-/

namespace Speedup

open Ordered

structure Collapsed where
  suite : String
  bench : String
  inputsize : Option Int
  exe : String
  median : Double
  deriving DecidableEq, Repr

namespace Collapsed

/-- What measurements of one series have in common: benchmark, executable, suite, input size. -/
abbrev Series := Pair String (Pair String (Pair String (Option Int)))

def series (o : Observation) : Series := ⟨o.bench, o.exe, o.suite, o.inputsize⟩

/-- The median of every invocation with a value, under its series. -/
def invocationMedians (rows : List Observation) : List (Series × Double) :=
  let key := fun o => (⟨series o, o.invocation⟩ : Pair Series (Option Int))
  (Grouping.values key rows).entries.filterMap
    fun (k, xs) => (Sample.median xs).map fun m => (k.first, m)

def ofSeries (s : Series) (medians : List Double) : Option Collapsed :=
  (Sample.median medians).map fun m =>
    ⟨s.second.second.first, s.first, s.second.second.second, s.second.first, m⟩

/-- The order of the table: by suite, benchmark, input size with a missing one last, and median. -/
def order (a b : Collapsed) : Ordering :=
  (compare a.suite b.suite).then <|
    (compare a.bench b.bench).then <|
      (compare a.inputsize.isNone b.inputsize.isNone).then <|
        (compare a.inputsize b.inputsize).then <|
          compare a.median.totalPlace b.median.totalPlace

/-- The collapsed medians of all series, in table order. Rows that tie stay in the order of
their series. -/
def ofRows (rows : List Observation) : List Collapsed :=
  ((Table.group (invocationMedians rows)).entries.filterMap fun (s, ms) => ofSeries s ms).mergeSort
    fun a b => order a b != .gt

end Collapsed

end Speedup
