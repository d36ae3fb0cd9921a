import Speedup.Files.Tree
import Speedup.Log
import Speedup.Pattern.Parser
import Speedup.Settings.Basic
import Speedup.Settings.Layers
import Speedup.Text.Utf8

/-!
# Where settings come from

One file belongs to the user, and one to the folder that the program is started in or to the
nearest folder around it that has one. The second is laid over the first. The search ends at a file
whether or not it can be read; one that cannot be read says nothing.

In the program: `system_config_path`, `find_config_path` (`folderPath?`), `read_hierarchical_config`
(`root`), `unreadable_config_warning` and `load` (`settings`).
-/

namespace Speedup

/-- What the program finds around it. Of what it leaves to others it knows no more than what they
answer: which patterns there are, and how refused documents are told of. -/
structure Surroundings where
  /-- Where the program is started, if that is a folder still. -/
  working : Option Files.Place
  read : Path → Except Files.Problem (List UInt8)
  /-- Whether a path leads to a plain file, readable or not. Where nothing is said of it, files are
  what can be read. -/
  isFile : Path → Bool := fun p => (read p).isOk
  configHome : Option Path
  home : Option Path
  patterns : PatternLanguage := .standard
  wording : SettingsProblem.Wording := .standard

namespace Surroundings

def userPath? (s : Surroundings) : Option Path :=
  let within := ["bench-report", "config.toml"]
  match s.configHome with
  | some folder => some (Path.below folder within)
  | none => s.home.map fun home => Path.below home (".config" :: within)

def folderFile : String := ".benchreportconfig"

def pathOf (place : Files.Place) : Path := "/" ++ String.intercalate "/" place

/-- The files that may belong to a folder, the nearest first. -/
def candidates (s : Surroundings) : List Path :=
  s.working.toList.flatMap fun working =>
    (List.range (working.length + 1)).reverse.map fun n =>
      Path.join (pathOf (working.take n)) folderFile

def folderPath? (s : Surroundings) : Option Path := s.candidates.find? s.isFile

def settingsPaths (s : Surroundings) : List Path := s.userPath?.toList ++ s.folderPath?.toList

/-- The paths under which a file is looked for. -/
def spellings (p : Path) : List Path := [p, p ++ ".toml"]

/-- The text of a file. One that is there and cannot be read says as little as none. -/
def layer? (s : Surroundings) (p : Path) : Option String := do
  let found ← (spellings p).find? s.isFile
  let octets ← (s.read found).toOption
  some (Text.Utf8.decodeLossy octets)

def root (s : Surroundings) : Except SettingsProblem Setting :=
  match Setting.ofTexts? (s.settingsPaths.filterMap s.layer?) with
  | some root => .ok root
  | none => .error .unreadable

def unreadableNote (s : Surroundings) : Log.Entry :=
  ⟨.warn, .config, "Could not read configuration, using defaults: " ++
    SettingsProblem.unreadable.message s.wording ++
    ". Run \x60bench-report config\x60 for details"⟩

def settingsLog (s : Surroundings) : List Log.Entry :=
  match s.root with
  | .ok _ => []
  | .error _ => [s.unreadableNote]

/-- The settings in effect. If they cannot be read, the defaults are. -/
def settings (s : Surroundings) : Except SettingsProblem Settings :=
  match s.root with
  | .ok root => Settings.ofRoot root
  | .error _ => .ok .default

end Surroundings

end Speedup
