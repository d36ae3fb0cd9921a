import Speedup.Settings.Setting
import Speedup.Toml.Document

/-!
# Layers of settings

Documents are laid over one another, the most general one first. The names at the top of a
document may be paths into tables and lists: `a.b` is the field `b` of the field `a`, and `a[0]`
the first item of the field `a`. A name that is no path stands for itself.

In the program: `read_config_files` (`Setting.ofTexts?`).
-/

namespace Speedup.Setting

inductive KeyStep where
  | field (name : String)
  /-- An item of a list; negative numbers count from the end. -/
  | item (index : Int)
  deriving DecidableEq, Repr

namespace KeyStep

def isNameChar (c : Char) : Bool := c.isAlphanum || c = '_' || c = '-'

def name? (cs : List Char) : Option (String × List Char) :=
  let name := cs.takeWhile isNameChar
  if name.isEmpty then none else some (String.ofList name, cs.dropWhile isNameChar)

def more? : (fuel : Nat) → List Char → Option (List KeyStep)
  | 0, _ => none
  | _, [] => some []
  | fuel + 1, '.' :: rest => do
    let (name, rest) ← name? rest
    let steps ← more? fuel rest
    some (.field name :: steps)
  | fuel + 1, '[' :: rest => do
    match rest.dropWhile (· != ']') with
    | ']' :: after =>
      let digits := rest.takeWhile (· != ']')
      let index ← if digits.head? = some '+' then none else Text.int64? digits
      let steps ← more? fuel after
      some (.item index :: steps)
    | _ => none
  | _, _ => none

def path (text : String) : List KeyStep :=
  let read := do
    let (name, rest) ← name? text.toList
    let steps ← more? (rest.length + 1) rest
    some (KeyStep.field name :: steps)
  read.getD [.field text]

end KeyStep

/-- The items of a list; other settings have none. -/
def items : Setting → List Setting
  | list items => items
  | _ => []

/-- A list filled up so that it has an item with the given number, which is counted from its
beginning in the result. -/
def withItem (items : List Setting) (index : Int) : List Setting × Nat :=
  if 0 ≤ index then
    (items ++ List.replicate (index.toNat + 1 - items.length) absent, index.toNat)
  else
    let back := index.natAbs
    (List.replicate (back - items.length) absent ++ items, items.length - back)

/-- Lays a setting over what a path leads to. -/
def putAt (s : Setting) : List KeyStep → Setting → Setting
  | [], new => s.laidOver new
  | .field name :: steps, new =>
    table (putField name (putAt ((s.field? name).getD absent) steps new) s.fields)
  | .item index :: steps, new =>
    let (items, place) := withItem s.items index
    list (items.set place (putAt (items.getD place absent) steps new))

def addLayer (s : Setting) (entries : List (String × Toml.Value)) : Setting :=
  entries.foldl (fun s (name, v) => s.putAt (KeyStep.path name) (ofValue v)) s

/-- The settings of several documents; there are none if one of them cannot be read. -/
def ofTexts? (texts : List String) : Option Setting :=
  (texts.mapM Toml.parse?).map fun layers => layers.foldl addLayer (table [])

example : KeyStep.path "a.b[-1]" = [.field "a", .field "b", .item (-1)] := by decide +kernel
example : KeyStep.path "GC count" = [.field "GC count"] := by decide +kernel

end Speedup.Setting
