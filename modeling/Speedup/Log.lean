/-!
# Log

What the program tells of its work beside its results. Every entry has a level and the part of
the program it comes from.
-/

namespace Speedup.Log

/-- How important an entry is, the most important first. -/
inductive Level where
  | error
  | warn
  | info
  | debug
  | trace
  deriving DecidableEq, Repr

namespace Level

def name : Level → String
  | error => "ERROR"
  | warn => "WARN"
  | info => "INFO"
  | debug => "DEBUG"
  | trace => "TRACE"

/-- The place of a level; more important ones come first. -/
def severity : Level → Nat
  | error => 0
  | warn => 1
  | info => 2
  | debug => 3
  | trace => 4

end Level

inductive Origin where
  | loader
  | filter
  | config
  | tables
  | charts
  | reporting
  | cli
  deriving DecidableEq, Repr

def Origin.name : Origin → String
  | loader => "bench_report::loader"
  | filter => "bench_report::filter"
  | config => "bench_report::config"
  | tables => "bench_report::tables"
  | charts => "bench_report::charts"
  | reporting => "bench_report::reporting"
  | cli => "bench_report::cli"

structure Entry where
  level : Level
  origin : Origin
  message : String
  deriving DecidableEq, Repr

def Entry.line (e : Entry) : String :=
  e.level.name ++ " " ++ e.origin.name ++ ": " ++ e.message

/-- The least important level shown for a number of requests for more. -/
def shownSeverity (requests : Nat) : Nat := min (1 + requests) 4

def Entry.isShown (requests : Nat) (e : Entry) : Bool :=
  e.level.severity ≤ shownSeverity requests

end Speedup.Log
