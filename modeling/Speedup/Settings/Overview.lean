import Speedup.Settings.Sources
import Speedup.Text.Align

/-!
# Settings as they are shown

Where the settings come from and which ones are in effect, or why there are none.

In the program: `gather_config_info` and `display_human_readable`.
-/

namespace Speedup

structure SettingsOverview where
  user : Option Path
  folder : Option Path
  settings : Except String Settings

namespace SettingsOverview

def ofSurroundings (s : Surroundings) : SettingsOverview :=
  { user := s.userPath?.filter s.isFile
    folder := s.folderPath?
    settings := (s.root.bind Settings.ofRoot).mapError (·.message s.wording) }

def line (text : String) : String := text ++ "\n"

def metricLine (m : Metric) : String :=
  line ("  " ++ Text.alignLeft 12 m.key ++ " criterion: " ++ Text.alignLeft 12 m.criterion ++
    " unit: " ++ Text.alignLeft 6 m.unit ++ " precision: " ++ Nat.repr m.precision ++
    "  label: " ++ m.label ++ "  title: " ++ m.title)

def settingsText (s : Settings) : String :=
  line ("Baseline: " ++ s.baseline.getD "(not set)") ++
    line ("Output directory: " ++ s.outputFolder) ++
    line ("Excluded suites: " ++
      if s.excludedSuites.isEmpty then "(none)" else String.intercalate ", " s.excludedSuites) ++
    line "Metrics:" ++ String.join (s.metrics.map metricLine)

def text (o : SettingsOverview) : String :=
  line "Bench Report Configuration Information" ++
    line "======================================" ++
    line ("System config: " ++ o.user.getD "(not found)") ++
    line ("Local config: " ++ o.folder.getD "(not found)") ++
    line "" ++
    match o.settings with
    | .ok settings => settingsText settings
    | .error message => line ("Configuration: Error loading - " ++ message)

end SettingsOverview

end Speedup
