import Speedup.Double.Arithmetic
import Speedup.Metric

/-!
# A synthetic set of observations

Every executable runs every benchmark for all built-in metrics. The values follow a simple rule,
by which the first executable is the slowest.

In the program: `synthetic_observations`.
-/

namespace Speedup.ObservationTable

/-- The value of a sample; counts begin at zero, invocations and iterations at one. -/
def syntheticValue (bench exe metric invocation iteration : Nat) : Double :=
  Double.ofNat (bench + 1) * 100 * Double.ofNat (metric + 1) / Double.ofNat (exe + 1) +
    Double.ofNat ((invocation * 7 + iteration * 3) % 5)

def synthetic (benches exes invocations iterations : Nat) : List Observation :=
  (List.range benches).flatMap fun b =>
    (List.range exes).flatMap fun e =>
      Metric.builtIn.zipIdx.flatMap fun (metric, m) =>
        (List.range invocations).flatMap fun i =>
          (List.range iterations).map fun k =>
            { bench := "bench-" ++ Nat.repr b, exe := "exe-" ++ Nat.repr e
              suite := "suite-" ++ Nat.repr (b % 2)
              criterion := metric.criterion, unit := metric.unit
              envid := Nat.repr ((i + 1) % 2)
              value := some (syntheticValue b e m (i + 1) (k + 1))
              inputsize := some 1, invocation := some ((i + 1 : Nat) : Int)
              iteration := some ((k + 1 : Nat) : Int) }

end Speedup.ObservationTable
