import Speedup.Log
import Speedup.Observation
import Speedup.Pattern.Parser

/-!
# Selecting observations

Observations are kept if their suite is not excluded and the names of their benchmark and
executable fit the patterns given for them. Without patterns every name fits, otherwise a name
fits if one of them occurs in it.

In the program: `compile_filters` (`readPatterns`), `matches_any_filter` (`fits`) and
`ObservationFilter` with `new`, `accepts` and `apply`.
-/

namespace Speedup

structure InvalidPattern where
  text : String
  reason : String
  deriving DecidableEq, Repr

def InvalidPattern.message (e : InvalidPattern) : String :=
  "Invalid regex pattern: '" ++ e.text ++ "'"

structure Selection where
  excludedSuites : List String
  benches : List (String → Bool)
  exes : List (String → Bool)

namespace Selection

/-- Reads patterns; the first text that is none is reported. -/
def readPatterns (texts : List String) (language : PatternLanguage := .standard) :
    Except InvalidPattern (List (String → Bool)) :=
  texts.mapM fun text => (language.compile text).mapError fun reason => ⟨text, reason⟩

/-- A selection with patterns for benchmarks, which are read first, and executables. -/
def ofPatterns (excludedSuites benches exes : List String)
    (language : PatternLanguage := .standard) : Except InvalidPattern Selection := do
  let benches ← readPatterns benches language
  let exes ← readPatterns exes language
  return { excludedSuites, benches, exes }

def fits (patterns : List (String → Bool)) (name : String) : Bool :=
  patterns.isEmpty || patterns.any (· name)

def accepts (s : Selection) (o : Observation) : Bool :=
  !s.excludedSuites.contains o.suite && fits s.benches o.bench && fits s.exes o.exe

def apply (s : Selection) (rows : List Observation) : List Observation := rows.filter s.accepts

def log (before after : List Observation) : List Log.Entry :=
  [⟨.info, .filter, "Kept " ++ Nat.repr after.length ++ " of " ++ Nat.repr before.length ++
    " observations after filtering"⟩]

end Selection

end Speedup
