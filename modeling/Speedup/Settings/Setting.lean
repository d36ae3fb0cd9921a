import Speedup.Decimal.Style
import Speedup.Toml.Value

/-!
# Settings as they are written

What configuration files say, laid over one another. A table that is laid over a table adds to it
and replaces what both have; anything else takes the place of what was there.
-/

namespace Speedup

inductive Setting where
  | absent
  | text (s : String)
  | truth (b : Bool)
  | integer (n : Int)
  | number (x : Double)
  | list (items : List Setting)
  | table (fields : List (String × Setting))

namespace Setting

mutual

def ofValue : Toml.Value → Setting
  | .string s => text s
  | .integer n => integer n
  | .float x => number x
  | .boolean b => truth b
  | .datetime s => text s
  | .array items => list (ofValues items)
  | .table entries => table (ofEntries entries)

def ofValues : List Toml.Value → List Setting
  | [] => []
  | v :: rest => ofValue v :: ofValues rest

def ofEntries : List (String × Toml.Value) → List (String × Setting)
  | [] => []
  | (name, v) :: rest => (name, ofValue v) :: ofEntries rest

end

/-! ## Tables -/

/-- The fields of a table; other settings have none. -/
def fields : Setting → List (String × Setting)
  | table fields => fields
  | _ => []

def field? (s : Setting) (name : String) : Option Setting := s.fields.lookup name

def putField (name : String) (s : Setting) : List (String × Setting) → List (String × Setting)
  | [] => [(name, s)]
  | f :: rest => if f.1 = name then (name, s) :: rest else f :: putField name s rest

mutual

def laidOver (old : Setting) : Setting → Setting
  | table fields => table (fieldsLaidOver old.fields fields)
  | s => s

def fieldsLaidOver (old : List (String × Setting)) :
    List (String × Setting) → List (String × Setting)
  | [] => old
  | (name, s) :: rest =>
    fieldsLaidOver (putField name (laidOver ((old.lookup name).getD absent) s) old) rest

end

/-! ## Plain values -/

/-- A setting as text, which lists and tables have none of. -/
def text? : Setting → Option String
  | text s => some s
  | truth b => some (if b then "true" else "false")
  | integer n => some (Int.repr n)
  | number x => some (Decimal.Style.plain.text x)
  | _ => none

/-- The natural number that a text stands for, below two to the 64th; words for yes and no stand
for one and zero. -/
def naturalOfText? (s : String) : Option Nat :=
  let word := String.ofList (s.toList.map Char.toLower)
  if word ∈ ["true", "on", "yes"] then some 1
  else if word ∈ ["false", "off", "no"] then some 0
  else
    Text.natBelow? UInt64.size <|
      match s.toList with
      | '+' :: rest => rest
      | cs => cs

/-- A setting as a natural number. Numbers are rounded to one that fits into 64 bits. -/
def natural? : Setting → Option Nat
  | text s => naturalOfText? s
  | truth b => some (if b then 1 else 0)
  | integer n => if n < 0 then none else some n.toNat
  | number x => some x.round.toUInt64Clamped
  | _ => none

def texts? : Setting → Option (List String)
  | list items => items.mapM text?
  | _ => none

end Setting

end Speedup
