import Speedup.Decimal.Style
import Speedup.ObservationTable.Reader

/-!
# Writing a table of observations

Observations as lines of comma-separated values in a fixed order of columns. Cells are written as
they are, so texts with commas, quotes or line ends do not come back.

In the program: `to_csv`.
-/

namespace Speedup.ObservationTable

/-- The cells of an observation, in the order of `knownColumns`. -/
def cells (o : Observation) : List String :=
  let integer := fun n : Option Int => (n.map Int.repr).getD ""
  [o.bench, o.exe, o.suite, o.criterion, o.unit, o.envid,
    (o.value.map Decimal.Style.plain.text).getD "",
    integer o.inputsize, integer o.invocation, integer o.iteration]

def line (cells : List String) : String := String.intercalate "," cells ++ "\n"

def text (rows : List Observation) : String :=
  String.join ((knownColumns :: rows.map cells).map line)

end Speedup.ObservationTable
