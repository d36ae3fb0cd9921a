import Speedup.Files.Path
import Speedup.Ordered.Keys

/-!
# File trees

Folders and files as a program meets them: by the names that lead to them from the root. Paths are
followed segment by segment from a working folder, and every segment must be taken inside of a
folder.
-/

namespace Speedup.Files

open Ordered

inductive Problem where
  | notFound
  | exists
  | notFolder
  | isFolder
  | nameTooLong
  | noName
  | other (reason : String)
  deriving DecidableEq, Repr

def Problem.message : Problem → String
  | notFound => "No such file or directory (os error 2)"
  | «exists» => "File exists (os error 17)"
  | notFolder => "Not a directory (os error 20)"
  | isFolder => "Is a directory (os error 21)"
  | nameTooLong => "File name too long (os error 36)"
  | noName => "file name contained an unexpected NUL byte"
  | other reason => reason

/-- The problem that the system has a number for. -/
def Problem.ofCode (code : Nat) (details : String) : Problem :=
  match code with
  | 2 => notFound
  | 17 => «exists»
  | 20 => notFolder
  | 21 => isFolder
  | 36 => nameTooLong
  | _ => other (details ++ " (os error " ++ Nat.repr code ++ ")")

abbrev Place := List String

inductive Entry (α : Type) where
  | folder
  | file (content : α)
  deriving DecidableEq, Repr

/-- What is at every place below the root. -/
structure Tree (α : Type) where
  entries : Table Place (Entry α)
  /-- Where relative paths begin. -/
  working : Place

namespace Tree

variable {α : Type}

/-- What is at a place. The root is always a folder. -/
def at? (t : Tree α) (place : Place) : Option (Entry α) :=
  if place.isEmpty then some .folder else t.entries.get? place

def requireFolder (t : Tree α) (place : Place) : Except Problem Unit :=
  match t.at? place with
  | none => .error .notFound
  | some (.file _) => .error .notFolder
  | some .folder => .ok ()

def maxNameLength : Nat := 255

def enter (place : Place) (name : String) : Except Problem Place :=
  if maxNameLength < name.utf8ByteSize then .error .nameTooLong else .ok (place ++ [name])

def follow (t : Tree α) (place : Place) (segment : String) : Except Problem Place := do
  t.requireFolder place
  if Path.isIdle segment then return place
  else if segment = ".." then return place.dropLast
  else enter place segment

def walk (t : Tree α) (place : Place) (segments : List String) : Except Problem Place :=
  segments.foldlM t.follow place

def origin (t : Tree α) (p : Path) : Place := if p.isAbsolute then [] else t.working

def maxPathLength : Nat := 4095

/-- Paths that lead anywhere are not empty, free of the character with number zero and not too
long. -/
def check (p : Path) : Except Problem Unit :=
  if p.toList.contains '\x00' then .error .noName
  else if p.isEmpty then .error .notFound
  else if maxPathLength < p.utf8ByteSize then .error .nameTooLong
  else .ok ()

def find (t : Tree α) (p : Path) : Except Problem (Entry α) := do
  check p
  match t.at? (← t.walk (t.origin p) p.segments) with
  | none => .error .notFound
  | some entry => .ok entry

def read (t : Tree α) (p : Path) : Except Problem α := do
  match ← t.find p with
  | .folder => .error .isFolder
  | .file content => .ok content

def isFile (t : Tree α) (p : Path) : Bool :=
  match t.find p with
  | .ok (.file _) => true
  | _ => false

def isFolder (t : Tree α) (p : Path) : Bool :=
  match t.find p with
  | .ok .folder => true
  | _ => false

/-- The last segment of a path that is not empty, the folder it is looked up in, and whether a
slash follows it. -/
structure Target where
  folder : Place
  name : String
  slash : Bool
  deriving DecidableEq, Repr

/-- The target of a path; the root has none. -/
def target? (t : Tree α) (p : Path) : Except Problem (Option Target) := do
  check p
  let reversed := p.segments.reverse
  match reversed.dropWhile (· == "") with
  | [] => return none
  | name :: before =>
    let folder ← t.walk (t.origin p) before.reverse
    t.requireFolder folder
    return some ⟨folder, name, reversed.head? == some ""⟩

def put (t : Tree α) (place : Place) (entry : Entry α) : Tree α :=
  { t with entries := t.entries.insert place entry }

/-- Makes the folder that a path names, inside of a folder that is there. -/
def makeFolder (t : Tree α) (p : Path) : Except Problem (Tree α) := do
  match ← t.target? p with
  | none => .error .exists
  | some target =>
    if Path.isIdle target.name || target.name == ".." then .error .exists
    else
      let place ← enter target.folder target.name
      if (t.at? place).isSome then .error .exists else return t.put place .folder

def writeFile (t : Tree α) (p : Path) (content : α) : Except Problem (Tree α) := do
  match ← t.target? p with
  | none => .error .isFolder
  | some target =>
    if Path.isIdle target.name || target.name == ".." || target.slash then .error .isFolder
    else
      let place ← enter target.folder target.name
      match t.at? place with
      | some .folder => .error .isFolder
      | _ => return t.put place (.file content)

/-! ## Folders with all that lead to them -/

/-- What an operation leaves behind: the tree, and what stood in its way if it did not succeed. -/
structure Result (α : Type) where
  tree : Tree α
  problem : Option Problem

/-- A folder that is there is as good as one that is made. -/
def orThere (t : Tree α) (p : Path) : Except Problem (Tree α) → Result α
  | .ok made => ⟨made, none⟩
  | .error problem => ⟨t, if t.isFolder p then none else some problem⟩

/-- Makes the first of some folders, each of which lies in the next one. If the folder around it
is not there, that is made first. -/
def makeFirst (t : Tree α) : List Path → Result α
  | [] => ⟨t, none⟩
  | p :: outer =>
    if p.isEmpty then ⟨t, none⟩
    else
      match t.makeFolder p with
      | .error .notFound =>
        let around := makeFirst t outer
        if around.problem.isSome then around
        else around.tree.orThere p (around.tree.makeFolder p)
      | made => t.orThere p made

/-- The paths that lead to a path taken apart, nearest first; `fuel` bounds their number. -/
def outerPaths : (fuel : Nat) → Path.Parts → List Path
  | 0, _ => []
  | fuel + 1, p =>
    match p.parent? with
    | none => []
    | some q => q.path :: outerPaths fuel q

/-- Makes the folder that a path names and every folder on the way to it. -/
def makeFolders (t : Tree α) (p : Path) : Result α :=
  t.makeFirst (p :: outerPaths (p.length + 1) p.parts)

/-- The tree without anything but the working folder and what leads to it. -/
def bare (working : Place) : Tree α :=
  ⟨Table.ofList ((List.range working.length).map fun n => (working.take (n + 1), .folder)), working⟩

end Tree

end Speedup.Files
