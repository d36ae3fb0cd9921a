import Speedup.CommandLine.Invocation

/-!
# Options of the commands

Every command has the option for help; the others tell what they mean by a slot.
-/

namespace Speedup.CommandLine

inductive Slot where
  | input
  | baseline
  | excludedSuite
  | bench
  | exe
  | metric
  | output
  | folder
  | noEnvironments
  | help
  deriving DecidableEq, Repr

namespace Slot

/-- Whether a slot can be filled several times. -/
def isList : Slot → Bool
  | excludedSuite | bench | exe | metric => true
  | _ => false

def takesValue : Slot → Bool
  | noEnvironments | help => false
  | _ => true

def kind : Slot → ValueKind
  | input | output | folder => .path
  | baseline | metric => .word
  | _ => .any

end Slot

structure OptionName where
  slot : Slot
  long : String
  short : Option Char
  deriving DecidableEq, Repr

inductive CommandName where
  | summary
  | compare
  | report
  | config
  deriving DecidableEq, Repr

namespace CommandName

def ofText? : String → Option CommandName
  | "summary" => some summary
  | "compare" => some compare
  | "report" => some report
  | "config" => some config
  | _ => none

def inputOptions : List OptionName :=
  [⟨.baseline, "baseline", some 'b'⟩, ⟨.excludedSuite, "exclude-suite", some 'x'⟩,
    ⟨.bench, "filter", some 'f'⟩, ⟨.exe, "exe", some 'e'⟩]

def metricOption : OptionName := ⟨.metric, "metric", some 'm'⟩
def helpOption : OptionName := ⟨.help, "help", some 'h'⟩

def options : CommandName → List OptionName
  | summary => helpOption :: metricOption :: inputOptions
  | compare => helpOption :: metricOption :: ⟨.output, "output", some 'o'⟩ :: inputOptions
  | report =>
    helpOption :: ⟨.folder, "output-dir", some 'o'⟩ :: ⟨.noEnvironments, "no-envs", none⟩ ::
      inputOptions
  | config => [helpOption]

def readsInput : CommandName → Bool
  | config => false
  | _ => true

def long? (c : CommandName) (name : String) : Option Slot :=
  (c.options.find? (·.long == name)).map (·.slot)

def short? (c : CommandName) (letter : Char) : Option Slot :=
  (c.options.find? (·.short == some letter)).map (·.slot)

end CommandName

/-! ## Tokens -/

inductive Token where
  /-- Two dashes, after which nothing is an option. -/
  | escape
  /-- A long name, perhaps with a value behind an equals sign. -/
  | long (name : String) (value : Option String)
  | letters (cs : List Char)
  | plain (text : String)
  deriving DecidableEq, Repr

def Token.ofText (text : String) : Token :=
  match text.toList with
  | ['-', '-'] => escape
  | '-' :: '-' :: cs =>
    match cs.dropWhile (· != '=') with
    | [] => long (String.ofList cs) none
    | _ :: value => long (String.ofList (cs.takeWhile (· != '='))) (some (String.ofList value))
  | '-' :: c :: cs => letters (c :: cs)
  | _ => plain text

end Speedup.CommandLine
