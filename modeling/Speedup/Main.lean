import Speedup.Calendar
import Speedup.CommandLine.Plan
import Std.Time.DateTime.Timestamp

/-!
# The program

Reads what the work depends on, plans the work, and does it step by step.
-/

namespace Speedup.Program

/-- The problem with a number of the system, which may be given with a minus in 32 bits. -/
def problemOfCode (code : UInt32) (details : String) : Files.Problem :=
  let n := code.toNat
  .ofCode (if n < UInt32.size / 2 then n else UInt32.size - n) details

def problemOf : IO.Error → Files.Problem
  | .alreadyExists _ code details => problemOfCode code details
  | .otherError code details => problemOfCode code details
  | .resourceBusy code details => problemOfCode code details
  | .resourceVanished code details => problemOfCode code details
  | .unsupportedOperation code details => problemOfCode code details
  | .hardwareFault code details => problemOfCode code details
  | .unsatisfiedConstraints code details => problemOfCode code details
  | .illegalOperation code details => problemOfCode code details
  | .protocolError code details => problemOfCode code details
  | .timeExpired code details => problemOfCode code details
  | .interrupted _ code details => problemOfCode code details
  | .noFileOrDirectory _ code details => problemOfCode code details
  | .invalidArgument _ code details => problemOfCode code details
  | .permissionDenied _ code details => problemOfCode code details
  | .resourceExhausted _ code details => problemOfCode code details
  | .inappropriateType _ code details => problemOfCode code details
  | .noSuchThing _ code details => problemOfCode code details
  | .unexpectedEof => .other "unexpected end of file"
  | .userError message => .other message

def readFile (p : Path) : IO (Except Files.Problem (List UInt8)) := do
  try return .ok (← IO.FS.readBinFile p).toList
  catch e => return .error (problemOf e)

def isFile (p : Path) : IO Bool := do
  try return (← (← IO.FS.realPath p).metadata).type == .file
  catch _ => return false

def working? : IO (Option Files.Place) := do
  try return some ((Path.segments (← IO.currentDir).toString).filter (!Path.isIdle ·))
  catch _ => return none

def emptySurroundings : IO Surroundings := do
  return {
    working := ← working?
    read := fun _ => .error .notFound
    isFile := fun _ => false
    configHome := ← IO.getEnv "XDG_CONFIG_HOME"
    home := ← IO.getEnv "HOME" }

def surroundings (s : Surroundings) (paths : List Path) : IO Surroundings := do
  let contents ← paths.mapM fun p => do return (p, ← readFile p)
  let kinds ← paths.mapM fun p => do return (p, ← isFile p)
  return { s with
    read := fun p => (contents.lookup p).getD (.error .notFound)
    isFile := fun p => (kinds.lookup p).getD false }

def plotName : IO String := do
  let letters := "ABCDEFGHIJKLMNOPQRSTUVWXYZabcdefghijklmnopqrstuvwxyz0123456789".toList
  let picks ← (List.range 20).mapM fun _ => IO.rand 0 (letters.length - 1)
  return String.ofList (picks.map fun n => letters.getD n 'A')

def timeText : IO String := do
  return Calendar.text (← Std.Time.Timestamp.now).toSecondsSinceUnixEpoch.val

/-- Does something with files; what stands in its way is behind the failure. -/
def attempt (message : String) (act : IO Unit) : IO (Option Failure) := do
  try
    act
    return none
  catch e => return some ⟨message, [(problemOf e).message]⟩

/-- Makes the first of some folders, each of which lies in the next one, and before it those around
it that are not there. -/
def makeFirst : List Path → IO Unit
  | [] => return
  | p :: outer => do
    if p.isEmpty then return
    let make := do
      try IO.FS.createDir p
      catch e => unless ← (try (← IO.FS.realPath p).isDir catch _ => pure false) do throw e
    try make
    catch e =>
      if problemOf e = .notFound then do
        makeFirst outer
        make
      else throw e

def makeFolders (p : Path) : IO Unit :=
  makeFirst (p :: Files.Tree.outerPaths (p.length + 1) p.parts)

def write (p : Path) (document : Document) : IO (Option Failure) := do
  let outer := (p.parent?.filter (!·.isEmpty)).getD ""
  let made ←
    if outer.isEmpty then pure none
    else attempt ("Failed to create directory " ++ outer) (makeFolders outer)
  if made.isSome then return made
  let octets := document.content (← plotName) (← timeText)
  attempt ("Failed to create " ++ p) (IO.FS.writeBinFile p ⟨octets.toArray⟩)

def tell (verbosity : Nat) (entry : Log.Entry) : IO Unit :=
  IO.eprint (CommandLine.shownLog verbosity [entry])

/-- Takes steps up to the first failure. -/
def takeSteps (verbosity : Nat) (folder : Path) : List Step → IO (Option Failure)
  | [] => return none
  | .note entry :: rest => do
    tell verbosity entry
    takeSteps verbosity folder rest
  | .print text :: rest => do
    IO.print text
    takeSteps verbosity folder rest
  | .write within document :: rest => do
    let path := Path.below folder within
    let failure ← write path document
    if failure.isSome then return failure
    tell verbosity (Files.writtenNote path)
    takeSteps verbosity folder rest

/-- Does the work of a command; the result is the code that the program ends with. -/
def perform (i : CommandLine.Invocation) : IO UInt32 := do
  let s ← emptySurroundings
  let s ← surroundings s (CommandLine.pathsRead s i.command)
  let plan := CommandLine.Plan.make s i.command
  let failure := (← takeSteps i.verbosity plan.folder plan.steps) <|> plan.failure
  IO.eprint (CommandLine.failureText failure)
  return (CommandLine.exitCode failure).toUInt32

end Speedup.Program

def main (args : List String) : IO UInt32 := do
  match Speedup.CommandLine.read args with
  | .ok i => Speedup.Program.perform i
  | .error refusal =>
    if refusal.exitCode = 0 then IO.print refusal.text else IO.eprint refusal.text
    return refusal.exitCode.toUInt32
