import Speedup.Toml.Reader

/-!
# TOML documents

A document is read line by line: headers, keys with values, and lines with nothing but a comment.
A key belongs to the table whose header is above it.
-/

namespace Speedup.Toml

/-- What has been read: the tables, and the path of the one that keys are added to. -/
structure Draft where
  root : Entries
  current : List String

namespace Draft

def addValue (d : Draft) (key : List String) (v : Value) : Option Draft := do
  let root ← changeAt .onTheWay (fun _ => true) true (Toml.addValue key v) d.current d.root
  some { d with root }

/-- Opens the table under a name, which may only have been passed through before. -/
def openTable (name : String) (entries : Entries) : Option Entries :=
  match entries.lookup name with
  | none => some (entries ++ [(name, .table .header [])])
  | some (.table .onTheWay children) => some (replaceNode entries name (.table .header children))
  | _ => none

def openNext (name : String) (entries : Entries) : Option Entries :=
  match entries.lookup name with
  | none => some (entries ++ [(name, .tables [] [])])
  | some (.tables current earlier) =>
    some (replaceNode entries name (.tables [] (current :: earlier)))
  | _ => none

def header (d : Draft) (next : Bool) (key : List String) : Option Draft := do
  let name ← key.getLast?
  let change := if next then openNext name else openTable name
  let root ← changeAt .onTheWay (fun _ => true) true change key.dropLast d.root
  some ⟨root, key⟩

/-- Takes the header or the key with its value at the front of a text. -/
def takeFront (d : Draft) (fuel : Nat) (cs : List Char) : Option (Draft × List Char) :=
  match cs with
  | '[' :: '[' :: rest => do
    let (key, rest) ← key? fuel (skipSpaces rest)
    let rest ← after? ']' (← after? ']' rest)
    some (← d.header true key, rest)
  | '[' :: rest => do
    let (key, rest) ← key? fuel (skipSpaces rest)
    let rest ← after? ']' rest
    some (← d.header false key, rest)
  | _ => do
    let (key, rest) ← key? fuel cs
    let rest ← after? '=' rest
    let (v, rest) ← value? fuel (skipSpaces rest)
    some (← d.addValue key v, rest)

/-- Whether a text can follow a header or a value: the line ends, perhaps with a comment. -/
def lineIsDone (cs : List Char) : Bool :=
  match skipSpaces cs with
  | [] => true
  | '#' :: _ => true
  | '\n' :: _ => true
  | '\r' :: '\n' :: _ => true
  | _ => false

def takeAll : (fuel : Nat) → Draft → List Char → Option Draft
  | 0, _, _ => none
  | fuel + 1, d, cs => do
    match ← skipLines false cs with
    | [] => some d
    | cs =>
      let (d, rest) ← d.takeFront (cs.length + 1) cs
      if lineIsDone rest then takeAll fuel d rest else none

end Draft

def dropMark : List Char → List Char
  | '\ufeff' :: rest => rest
  | cs => cs

def parse? (text : String) : Option (List (String × Value)) :=
  let cs := dropMark text.toList
  (Draft.takeAll (cs.length + 1) ⟨[], []⟩ cs).map fun d => completeEntries d.root

end Speedup.Toml
