import Speedup.Text.Split

/-!
# Paths

A path is a text of segments with slashes between them. Empty segments and single dots change
nothing, with one exception: a dot in front of a path counts as a segment of its own. A path that
begins with a slash is absolute.
-/

namespace Speedup

/-- A path as it is written. -/
abbrev Path := String

namespace Path

def segments (p : Path) : List String := (Text.splitAt '/' p.toList).map String.ofList

def isAbsolute (p : Path) : Bool := p.toList.head? == some '/'

/-- The path `rest` seen from the folder `base`. -/
def join (base rest : Path) : Path :=
  if isAbsolute rest || base.isEmpty || base.toList.getLast? == some '/' then
    if isAbsolute rest then rest else base ++ rest
  else base ++ "/" ++ rest

def below (base : Path) (segments : List Path) : Path := segments.foldl join base

/-! ## Components -/

def isIdle (segment : String) : Bool := segment == "" || segment == "."

inductive Head where
  | root
  | here
  | none
  deriving DecidableEq, Repr

/-- A path taken apart: its beginning and the segments after it, idle ones at the end left out. -/
structure Parts where
  head : Head
  body : List String
  deriving DecidableEq, Repr

/-- Segments without the idle ones at their end. -/
def dropIdle (segments : List String) : List String :=
  (segments.reverse.dropWhile isIdle).reverse

def parts (p : Path) : Parts :=
  match p.segments with
  | "" :: body => if isAbsolute p then ⟨.root, dropIdle body⟩ else ⟨.none, []⟩
  | "." :: body => ⟨.here, dropIdle body⟩
  | body => ⟨.none, dropIdle body⟩

def Parts.path (p : Parts) : Path :=
  let body := String.intercalate "/" p.body
  match p.head with
  | .root => "/" ++ body
  | .here => if p.body.isEmpty then "." else "./" ++ body
  | .none => body

def Parts.parent? (p : Parts) : Option Parts :=
  if p.body.isEmpty then
    match p.head with
    | .here => some ⟨.none, []⟩
    | _ => none
  else some { p with body := dropIdle p.body.dropLast }

/-- The path that leads to a path. The root and the empty path have none. -/
def parent? (p : Path) : Option Path := p.parts.parent?.map Parts.path

/-- The components of a path, by which paths are compared. -/
def components (p : Path) : Parts :=
  { p.parts with body := p.parts.body.filter fun segment => !isIdle segment }

def name? (p : Path) : Option String := p.parts.body.getLast?.filter (· != "..")

/-- What follows the last dot of a name, unless the name only begins with a dot. -/
def extension? (p : Path) : Option String := do
  let name ← p.name?
  let reversed := name.toList.reverse
  let (after, before) := reversed.span (· != '.')
  if before.length ≤ 1 then none else some (String.ofList after.reverse)

example : parent? "a/./b/" = some "a" := by decide +kernel
example : parent? "./q" = some "." := by decide +kernel
example : extension? "x/o.csv" = some "csv" := by decide +kernel
example : extension? "x/.csv" = none := by decide +kernel

end Path

end Speedup
