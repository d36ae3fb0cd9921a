import Speedup.Toml.Quoted

/-!
# Keys and values of TOML documents

Keys are dotted sequences of names. Arrays may span lines and have comments in them, tables
between braces may not.
-/

namespace Speedup.Toml

def isSpace (c : Char) : Bool := c = ' ' || c = '\t'

def skipSpaces (cs : List Char) : List Char := cs.dropWhile isSpace

/-- A text without blanks, line breaks and comments at its front; `comment` tells that a comment
has begun. -/
def skipLines (comment : Bool) : List Char → Option (List Char)
  | [] => some []
  | '\n' :: rest => skipLines false rest
  | '\r' :: '\n' :: rest => skipLines false rest
  | c :: rest =>
    if comment then if isTextChar c then skipLines true rest else none
    else if isSpace c then skipLines false rest
    else if c = '#' then skipLines true rest
    else some (c :: rest)

/-! ## Keys -/

def isBareChar (c : Char) : Bool := c.isAlphanum || c = '_' || c = '-'

def name? (cs : List Char) : Option (String × List Char) :=
  match cs with
  | '"' :: rest => (basic rest).map fun (text, rest) => (String.ofList text, rest)
  | '\x27' :: rest => (literal rest).map fun (text, rest) => (String.ofList text, rest)
  | _ =>
    let name := cs.takeWhile isBareChar
    if name.isEmpty then none else some (String.ofList name, cs.dropWhile isBareChar)

def key? : (fuel : Nat) → List Char → Option (List String × List Char)
  | 0, _ => none
  | fuel + 1, cs => do
    let (name, rest) ← name? cs
    match skipSpaces rest with
    | '.' :: more =>
      let (names, rest) ← key? fuel (skipSpaces more)
      some (name :: names, rest)
    | rest => some ([name], rest)

/-! ## Tables in the making -/

inductive Origin where
  /-- By a header of its own. -/
  | header
  /-- Because the header of another table leads through it. -/
  | onTheWay
  /-- By a dotted key. -/
  | dotted
  deriving DecidableEq, Repr

/-- What a key stands for while a document is read. Of several tables under one name the last one
is listed first. -/
inductive Node where
  | value (v : Value)
  | table (origin : Origin) (entries : List (String × Node))
  | tables (current : List (String × Node)) (earlier : List (List (String × Node)))

abbrev Entries := List (String × Node)

mutual

def Node.complete : Node → Value
  | .value v => v
  | .table _ entries => .table (completeEntries entries)
  | .tables current earlier =>
    .array (completeTables earlier ++ [.table (completeEntries current)])

def completeEntries : List (String × Node) → List (String × Value)
  | [] => []
  | (name, node) :: rest => (name, node.complete) :: completeEntries rest

def completeTables : List (List (String × Node)) → List Value
  | [] => []
  | entries :: rest => completeTables rest ++ [.table (completeEntries entries)]

end

def replaceNode (entries : Entries) (name : String) (node : Node) : Entries :=
  entries.map fun e => if e.1 = name then (name, node) else e

/-- Changes the table that a path leads to. Tables that are missing on the way are made with
the given origin; of the others those are entered that `admits` lets through, and with `lists` the
last one of several tables under one name. -/
def changeAt (origin : Origin) (admits : Origin → Bool) (lists : Bool)
    (change : Entries → Option Entries) : List String → Entries → Option Entries
  | [], entries => change entries
  | name :: path, entries =>
    match entries.lookup name with
    | none => do
      let made ← changeAt origin admits lists change path []
      some (entries ++ [(name, .table origin made)])
    | some (.table o children) => do
      if admits o then
        let changed ← changeAt origin admits lists change path children
        some (replaceNode entries name (.table o changed))
      else none
    | some (.tables current earlier) => do
      if lists then
        let changed ← changeAt origin admits lists change path current
        some (replaceNode entries name (.tables changed earlier))
      else none
    | some (.value _) => none

def addEntry (name : String) (node : Node) (entries : Entries) : Option Entries :=
  if (entries.lookup name).isSome then none else some (entries ++ [(name, node)])

/-- Adds a value under a dotted key. Tables with a header of their own are closed to it. -/
def addValue (key : List String) (v : Value) (entries : Entries) : Option Entries := do
  let name ← key.getLast?
  changeAt .dotted (· != .header) false (addEntry name (.value v)) key.dropLast entries

/-! ## Values -/

mutual

def value? : (fuel : Nat) → List Char → Option (Value × List Char)
  | 0, _ => none
  | fuel + 1, cs =>
    match cs with
    | '[' :: rest => (items? fuel rest).map fun (items, rest) => (.array items, rest)
    | '\x7b' :: rest =>
      match skipSpaces rest with
      | '\x7d' :: rest => some (.table [], rest)
      | rest => (fields? fuel [] rest).map fun (entries, rest) =>
          (.table (completeEntries entries), rest)
    | '"' :: _ => (quoted? cs).map fun (text, rest) => (.string text, rest)
    | '\x27' :: _ => (quoted? cs).map fun (text, rest) => (.string text, rest)
    | _ =>
      let (front, rest) := spanScalar cs
      (scalar? front).map fun v => (v, rest)

def items? : (fuel : Nat) → List Char → Option (List Value × List Char)
  | 0, _ => none
  | fuel + 1, cs => do
    match ← skipLines false cs with
    | ']' :: rest => some ([], rest)
    | cs =>
      let (v, rest) ← value? fuel cs
      match ← skipLines false rest with
      | ',' :: rest =>
        let (vs, rest) ← items? fuel rest
        some (v :: vs, rest)
      | ']' :: rest => some ([v], rest)
      | _ => none

def fields? : (fuel : Nat) → Entries → List Char → Option (Entries × List Char)
  | 0, _, _ => none
  | fuel + 1, entries, cs => do
    let (key, rest) ← key? fuel (skipSpaces cs)
    let rest ← after? '=' rest
    let (v, rest) ← value? fuel (skipSpaces rest)
    let entries ← addValue key v entries
    match skipSpaces rest with
    | ',' :: rest => fields? fuel entries rest
    | '\x7d' :: rest => some (entries, rest)
    | _ => none

end

end Speedup.Toml
