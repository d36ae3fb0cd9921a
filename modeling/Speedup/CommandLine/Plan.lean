import Speedup.Attempt
import Speedup.CommandLine.Help
import Speedup.CommandLine.Parser
import Speedup.ObservationTable.Reader
import Speedup.Report
import Speedup.Selection
import Speedup.Settings.Overview

/-!
# From the command line to the work

Before the work begins, the settings are loaded, then the baseline is looked up, the patterns are
read, the table is loaded and the metrics are chosen, in this order: the first of these that fails
is reported. What comes of it is a list of steps, and the failure that they end in, if any.

In the program: `handle_calls` (`Plan.make`), `resolve_baseline`, `load_selection`
(`Plan.observations`) and `show_config_info`.
-/

namespace Speedup.CommandLine

/-- The work to do: steps that begin in a folder, and the failure after them. -/
structure Plan where
  folder : Path
  steps : List Step
  failure : Option Failure

namespace Plan

def settings (s : Surroundings) : Attempt Settings :=
  ⟨s.settingsLog, s.settings.mapError fun problem => .plain (problem.message s.wording)⟩

def noBaseline : Failure :=
  .plain "No baseline configured. Pass --baseline or set report.baseline in the configuration"

/-- The baseline of the command line, or else that of the settings. -/
def baseline (settings : Settings) (input : Input) : Attempt String :=
  .ofResult <|
    match input.baseline <|> settings.baseline with
    | some baseline => .ok baseline
    | none => .error noBaseline

def excludedSuites (settings : Settings) (input : Input) : List String :=
  settings.excludedSuites ++ input.excludedSuites

def badPattern (e : InvalidPattern) : Failure := ⟨e.message, [e.reason]⟩

def selection (s : Surroundings) (settings : Settings) (input : Input) : Attempt Selection :=
  .ofResult <|
    (Selection.ofPatterns (excludedSuites settings input) input.benches input.exes
      s.patterns).mapError badPattern

def notLoaded (path : Path) (e : ObservationTable.LoadError) : Failure :=
  ⟨"Failed to load " ++ path, e.message :: e.causes⟩

def table (s : Surroundings) (input : Input) : Attempt (List Observation) := do
  let rows ← .ofResult <|
    (ObservationTable.load input.path (s.read input.path)).mapError (notLoaded input.path)
  Attempt.note (ObservationTable.loadLog input.path rows)
  Attempt.note [⟨.info, .cli, "Loaded " ++ Nat.repr rows.length ++ " observations from " ++
    input.path⟩]
  return rows

def observations (s : Surroundings) (settings : Settings) (input : Input) :
    Attempt (List Observation) := do
  let selection ← selection s settings input
  let rows ← table s input
  Attempt.note (Selection.log rows (selection.apply rows))
  return selection.apply rows

def metrics (settings : Settings) (keys : List String) : Attempt (List Metric) :=
  .ofResult (settings.selectMetrics keys)

/-! ## Commands -/

def here (steps : List Step) (failure : Option Failure) : Plan := ⟨"", steps, failure⟩

def summary (s : Surroundings) (input : Input) (keys : List String) : Attempt Plan := do
  let settings ← settings s
  let rows ← observations s settings input
  let metrics ← metrics settings keys
  return here [.print (Overview.summary metrics rows)] none

def compare (s : Surroundings) (input : Input) (keys : List String) (output : Path) :
    Attempt Plan := do
  let settings ← settings s
  let baseline ← baseline settings input
  let rows ← observations s settings input
  let metrics ← metrics settings keys
  let (steps, failure) := Report.compare rows metrics baseline output
  return here steps failure

def report (s : Surroundings) (input : Input) (folder : Option Path) (environments : Bool) :
    Attempt Plan := do
  let settings ← settings s
  let baseline ← baseline settings input
  let rows ← observations s settings input
  let folder := folder.getD settings.outputFolder
  return ⟨folder, Report.steps folder rows settings.metrics baseline environments, none⟩

/-- Shows the settings; that there are none is a failure. -/
def config (s : Surroundings) : Plan :=
  let overview := SettingsOverview.ofSurroundings s
  here [.print overview.text] <|
    match overview.settings with
    | .ok _ => none
    | .error message => some (.plain ("Invalid configuration: " ++ message))

def ofCommand (s : Surroundings) : Command → Attempt Plan
  | .summary input keys => summary s input keys
  | .compare input keys output => compare s input keys output
  | .report input folder environments => report s input folder environments
  | .config => pure (config s)

def make (s : Surroundings) (c : Command) : Plan :=
  let attempt := ofCommand s c
  let notes := attempt.log.map .note
  match attempt.result with
  | .error failure => here notes failure
  | .ok plan => { plan with steps := notes ++ plan.steps }

def run (p : Plan) (tree : Files.Tree Document) : Progress :=
  let progress := (Progress.start tree).run p.folder p.steps
  { progress with failure := progress.failure <|> p.failure }

end Plan

def pathsRead (s : Surroundings) (c : Command) : List Path :=
  let settings := (s.userPath?.toList ++ s.candidates).flatMap Surroundings.spellings
  match c with
  | .summary input _ => input.path :: settings
  | .compare input _ _ => input.path :: settings
  | .report input _ _ => input.path :: settings
  | .config => settings

/-! ## Answers to the one who started the program -/

def shownLog (verbosity : Nat) (log : List Log.Entry) : String :=
  String.join ((log.filter (·.isShown verbosity)).map fun e => e.line ++ "\n")

def exitCode (failure : Option Failure) : Nat := if failure.isSome then 1 else 0

def failureText (failure : Option Failure) : String :=
  (failure.map fun f => f.text ++ "\n").getD ""

end Speedup.CommandLine
