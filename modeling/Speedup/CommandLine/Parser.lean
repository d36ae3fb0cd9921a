import Speedup.CommandLine.Options

/-!
# Reading the command line

The arguments of a command are taken one after the other. A value is checked only when the next
option or free argument is met, or at the end; so an option that is not known is reported before a
value that is bad.
-/

namespace Speedup.CommandLine

/-- What has been said to a command: the slots that are filled, with their values, last first; the
slot that is not checked yet, with its value; and whether that still waits for a value. -/
structure Draft where
  filled : List (Slot × String)
  pending : Option (Slot × Option String)
  waiting : Bool
  inputGiven : Bool
  /-- Whether nothing is an option any more. -/
  escaped : Bool
  deriving DecidableEq, Repr

namespace Draft

def empty : Draft := ⟨[], none, false, false, false⟩

def has (d : Draft) (slot : Slot) : Bool := d.filled.any (·.1 == slot)

/-- The values of a slot in the order in which they are given. -/
def values (d : Draft) (slot : Slot) : List String :=
  (d.filled.filter (·.1 == slot)).reverse.map (·.2)

def put (d : Draft) (slot : Slot) (value : String) : Except Refusal Draft := do
  if !slot.isList && d.has slot then throw .argumentConflict
  slot.kind.check value
  return { d with filled := (slot, value) :: d.filled }

def settle (d : Draft) : Except Refusal Draft :=
  let settled := { d with pending := none, waiting := false }
  match d.pending with
  | none => .ok settled
  | some (_, none) => .error .invalidValue
  | some (slot, some value) => settled.put slot value

def takeFlag (d : Draft) (slot : Slot) : Except Refusal Draft := do
  let d ← d.settle
  if slot = .help then throw .displayHelp
  d.put slot ""

/-- Takes an option with a value, which follows it if it is not attached. -/
def takeOption (d : Draft) (slot : Slot) (attached : Option String) : Except Refusal Draft := do
  let d ← d.settle
  match attached with
  | some value => d.put slot value
  | none => return { d with pending := some (slot, none), waiting := true }

def takeFree (c : CommandName) (d : Draft) (text : String) : Except Refusal Draft := do
  if c.readsInput && !d.inputGiven then
    let d ← d.settle
    return { d with pending := some (.input, some text), inputGiven := true }
  else throw .unknownArgument

def takeLong (c : CommandName) (d : Draft) (name : String) (attached : Option String) :
    Except Refusal Draft :=
  match c.long? name with
  | none => .error .unknownArgument
  | some slot =>
    if slot.takesValue then d.takeOption slot attached
    else if attached.isSome then .error .tooManyValues
    else d.takeFlag slot

def attachedTo : List Char → Option String
  | [] => none
  | '=' :: cs => some (String.ofList cs)
  | cs => some (String.ofList cs)

/-- Takes letters behind one dash. The first one that has a value takes all that follows. -/
def takeLetters (c : CommandName) (d : Draft) : List Char → Except Refusal Draft
  | [] => .ok d
  | letter :: rest =>
    match c.short? letter with
    | none => .error .unknownArgument
    | some slot =>
      if slot.takesValue then d.takeOption slot (attachedTo rest)
      else do takeLetters c (← d.takeFlag slot) rest

def take (c : CommandName) (d : Draft) (text : String) : Except Refusal Draft :=
  if d.escaped then d.takeFree c text
  else
    match Token.ofText text with
    | .escape => .ok { d with escaped := true }
    | .long name attached => d.takeLong c name attached
    | .letters cs => d.takeLetters c cs
    | .plain text =>
      if d.waiting then
        .ok { d with pending := d.pending.map fun p => (p.1, some text), waiting := false }
      else d.takeFree c text

def input? (d : Draft) : Except Refusal Input :=
  match (d.values .input).head? with
  | none => .error .missingRequiredArgument
  | some path =>
    .ok {
      path
      baseline := (d.values .baseline).head?
      excludedSuites := d.values .excludedSuite
      benches := d.values .bench
      exes := d.values .exe }

def command (c : CommandName) (d : Draft) : Except Refusal Command := do
  match c with
  | .summary => return .summary (← d.input?) (d.values .metric)
  | .compare =>
    return .compare (← d.input?) (d.values .metric) ((d.values .output).head?.getD "-")
  | .report => return .report (← d.input?) (d.values .folder).head? (!d.has .noEnvironments)
  | .config => return .config

end Draft

def readCommand (c : CommandName) (args : List String) : Except Refusal Command := do
  let d ← args.foldlM (Draft.take c) .empty
  (← d.settle).command c

/-! ## Before the command -/

/-- The greatest number of requests to tell more that is counted. -/
def maxVerbosity : Nat := 255

/-- Takes letters before the command; the result is how often it is asked to tell more. -/
def readLetters (verbosity : Nat) : List Char → Except Refusal Nat
  | [] => .ok verbosity
  | 'v' :: rest => readLetters (min (verbosity + 1) maxVerbosity) rest
  | 'h' :: _ => .error .displayHelp
  | 'V' :: _ => .error .displayVersion
  | _ => .error .unknownArgument

def readLong (verbosity : Nat) (name : String) (attached : Option String) : Except Refusal Nat :=
  if name ∉ ["verbose", "help", "version"] then .error .unknownArgument
  else if attached.isSome then .error .tooManyValues
  else if name = "help" then .error .displayHelp
  else if name = "version" then .error .displayVersion
  else .ok (min (verbosity + 1) maxVerbosity)

def readHelp : List String → Refusal
  | [] => .displayHelp
  | [name] =>
    if name = "help" || (CommandName.ofText? name).isSome then .displayHelp
    else .invalidSubcommand
  | _ => .invalidSubcommand

/-- Reads arguments; `escaped` tells that nothing is a command or an option any more. -/
def readArguments (verbosity : Nat) (escaped : Bool) : List String → Except Refusal Invocation
  | [] => if verbosity = 0 then .error .nothingSaid else .error .missingSubcommand
  | text :: rest =>
    let name := CommandName.ofText? text
    if escaped then
      if name.isSome || text = "help" then .error .unknownArgument else .error .invalidSubcommand
    else if text = "help" then .error (readHelp rest)
    else
      match name with
      | some c => (readCommand c rest).map fun command => ⟨verbosity, command⟩
      | none =>
        match Token.ofText text with
        | .escape => readArguments verbosity true rest
        | .long name attached => do
          readArguments (← readLong verbosity name attached) false rest
        | .letters cs => do readArguments (← readLetters verbosity cs) false rest
        | .plain _ => .error .invalidSubcommand

def read (args : List String) : Except Refusal Invocation := readArguments 0 false args

end Speedup.CommandLine
