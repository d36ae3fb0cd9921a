import Speedup.CommandLine.Invocation

/-!
# What the program says about itself
-/

namespace Speedup.CommandLine

def versionText : String := "bench-report 0.1.0\n"

def helpText : String :=
  "Usage: bench-report [OPTIONS] <COMMAND>\n\n" ++
    "Commands:\n" ++
    "  summary <INPUT>  Print the medians of every metric\n" ++
    "  compare <INPUT>  Rank all configurations against the baseline\n" ++
    "  report <INPUT>   Write the full report tree\n" ++
    "  config           Show the configuration files in use and the effective settings\n" ++
    "  help             Print this message\n\n" ++
    "Options:\n" ++
    "  -v, --verbose        Increase verbosity level\n" ++
    "  -h, --help           Print help\n" ++
    "  -V, --version        Print version\n\n" ++
    "Options of the commands with an input:\n" ++
    "  -b, --baseline       Configuration all speedups are computed against\n" ++
    "  -x, --exclude-suite  Drop all observations of this suite\n" ++
    "  -f, --filter         Only consider benchmarks matching any of these patterns\n" ++
    "  -e, --exe            Only consider configurations matching any of these patterns\n" ++
    "  -m, --metric         Restrict output to these metrics (summary, compare)\n" ++
    "  -o, --output         Output destination (compare)\n" ++
    "  -o, --output-dir     Root directory of the report (report)\n" ++
    "      --no-envs        Skip the per environment breakdown (report)\n"

/-- What is said if there is no work to do. -/
def Refusal.text : Refusal → String
  | displayHelp => helpText
  | displayVersion => versionText
  | nothingSaid => helpText
  | unknownArgument => "error: unexpected argument found\n"
  | invalidSubcommand => "error: unrecognized subcommand\n"
  | missingSubcommand => "error: a subcommand is required but one was not provided\n"
  | invalidValue => "error: a value is required but none was supplied\n"
  | valueValidation => "error: invalid value: found space in a name\n"
  | argumentConflict => "error: an argument cannot be used multiple times\n"
  | tooManyValues => "error: unexpected value found\n"
  | missingRequiredArgument => "error: the required argument <INPUT> was not provided\n"

def Refusal.exitCode : Refusal → Nat
  | displayHelp => 0
  | displayVersion => 0
  | _ => 2

end Speedup.CommandLine
