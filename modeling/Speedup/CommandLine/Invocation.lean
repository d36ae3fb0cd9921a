import Speedup.Files.Path
import Speedup.Text.Blank

/-!
# What the command line asks for

In the program: `Cli`, `CliSelection` (`Input`), `Commands` and `parse_spaceless_string` (`isWord`).
-/

namespace Speedup.CommandLine

structure Input where
  path : Path
  baseline : Option String
  excludedSuites : List String
  benches : List String
  exes : List String
  deriving DecidableEq, Repr

inductive Command where
  | summary (input : Input) (metrics : List String)
  | compare (input : Input) (metrics : List String) (output : Path)
  | report (input : Input) (folder : Option Path) (environments : Bool)
  | config
  deriving DecidableEq, Repr

structure Invocation where
  verbosity : Nat
  command : Command
  deriving DecidableEq, Repr

/-- Why there is no work to do. -/
inductive Refusal where
  | displayHelp
  | displayVersion
  | nothingSaid
  | unknownArgument
  | invalidSubcommand
  | missingSubcommand
  /-- A value is missing or empty. -/
  | invalidValue
  | valueValidation
  /-- Something is said twice. -/
  | argumentConflict
  | tooManyValues
  | missingRequiredArgument
  deriving DecidableEq, Repr

def Refusal.name : Refusal → String
  | displayHelp => "DisplayHelp"
  | displayVersion => "DisplayVersion"
  | nothingSaid => "DisplayHelpOnMissingArgumentOrSubcommand"
  | unknownArgument => "UnknownArgument"
  | invalidSubcommand => "InvalidSubcommand"
  | missingSubcommand => "MissingSubcommand"
  | invalidValue => "InvalidValue"
  | valueValidation => "ValueValidation"
  | argumentConflict => "ArgumentConflict"
  | tooManyValues => "TooManyValues"
  | missingRequiredArgument => "MissingRequiredArgument"

/-! ## Values -/

inductive ValueKind where
  | any
  /-- A path, which is not empty. -/
  | path
  /-- A text without several words in it. -/
  | word
  deriving DecidableEq, Repr

def isWord (text : String) : Bool := (Text.words text).length ≤ 1

def ValueKind.check (kind : ValueKind) (text : String) : Except Refusal Unit :=
  match kind with
  | any => .ok ()
  | path => if text.isEmpty then .error .invalidValue else .ok ()
  | word => if isWord text then .ok () else .error .valueValidation

end Speedup.CommandLine
