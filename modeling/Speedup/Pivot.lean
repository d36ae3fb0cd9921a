import Speedup.Grouping

/-!
# Pivot of medians

A table with a row per benchmark, a column per executable, and the median of their values in the
cells that have any.

In the program: `median_pivot` (`Pivot.ofRows`), with `get` and `is_empty`.
-/

namespace Speedup

open Ordered

structure Pivot where
  cells : Table (Pair String String) Double

namespace Pivot

def ofRows (rows : List Observation) : Pivot :=
  ⟨(Grouping.stats Grouping.cell rows).map fun _ s => s.median⟩

/-- The rows, in order. Keys are ordered by benchmark first, so that the cells of a row are next to
each other. -/
def benches (p : Pivot) : List String := dropRepeats (p.cells.keys.map (·.first))

def exes (p : Pivot) : List String := distinct (p.cells.keys.map (·.second))

def get? (p : Pivot) (bench exe : String) : Option Double := p.cells.get? ⟨bench, exe⟩

def isEmpty (p : Pivot) : Bool := p.cells.isEmpty

end Pivot

end Speedup
