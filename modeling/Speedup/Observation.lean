import Speedup.Double.Basic

/-!
# Observations

One measured sample: which benchmark, which executable, in which suite and environment, what was
measured in which unit, and the value, which may be missing.

In the program: `Observation` and `select_bench` (`ofBench`).
-/

namespace Speedup

/-- A measured sample, as a row of the input table gives it. -/
structure Observation where
  bench : String
  exe : String
  suite : String
  criterion : String
  unit : String
  envid : String
  /-- Missing if the cell holds no number. -/
  value : Option Double
  inputsize : Option Int
  invocation : Option Int
  iteration : Option Int
  deriving DecidableEq, Repr

namespace Observation

def ofBench (bench : String) (rows : List Observation) : List Observation :=
  rows.filter (·.bench == bench)

def ofEnvironment (envid : String) (rows : List Observation) : List Observation :=
  rows.filter (·.envid == envid)

theorem mem_ofBench {bench : String} {rows : List Observation} {o : Observation} :
    o ∈ ofBench bench rows ↔ o ∈ rows ∧ o.bench = bench := by
  simp [ofBench]

theorem mem_ofEnvironment {envid : String} {rows : List Observation} {o : Observation} :
    o ∈ ofEnvironment envid rows ↔ o ∈ rows ∧ o.envid = envid := by
  simp [ofEnvironment]

end Observation

end Speedup
