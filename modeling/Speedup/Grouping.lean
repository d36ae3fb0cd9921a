import Speedup.Observation
import Speedup.Ordered.Keys
import Speedup.Sample.Stats

/-!
# Groups of observations

Observations that share a key are a group. A missing value takes part in no group, so a key
whose observations all miss their value does not appear.

In the program: `group_values` (`values`), `summarize_by` (`stats`), `mean_by` (`means`), `benches`
and `environments`.
-/

namespace Speedup.Grouping

open Ordered

variable {κ : Type} [Ord κ] [Std.TransOrd κ] [Std.LawfulEqOrd κ]

omit [Ord κ] [Std.TransOrd κ] [Std.LawfulEqOrd κ] in
/-- The values that are there, each with the key of its observation. -/
def keyed (key : Observation → κ) (rows : List Observation) : List (κ × Double) :=
  rows.filterMap fun o => o.value.map fun v => (key o, v)

/-- The values of every group in their order, by key. -/
def values (key : Observation → κ) (rows : List Observation) : Table κ (List Double) :=
  Table.group (keyed key rows)

def stats (key : Observation → κ) (rows : List Observation) : Table κ Stats :=
  (values key rows).filterMap fun _ xs => Stats.ofValues xs

def means (key : Observation → κ) (rows : List Observation) : Table κ Double :=
  (stats key rows).map fun _ s => s.mean

def cell (o : Observation) : Pair String String := ⟨o.bench, o.exe⟩

def benches (rows : List Observation) : List String := distinct (rows.map (·.bench))

def environments (rows : List Observation) : List String := distinct (rows.map (·.envid))

end Speedup.Grouping
