import Speedup.Unicode.CharSet

/-!
# Character properties

How the tables of character properties are written. A table lists properties by their names and
gives their characters as steps: the distance from the end of the last range and, if the range is
longer than one character, its length behind a point. All numbers are hexadecimal.
-/

namespace Speedup.Unicode

structure Property where
  names : List String
  steps : List String

def hexValue (c : Char) : Nat :=
  if c.isDigit then c.toNat - '0'.toNat else c.toLower.toNat - 'a'.toNat + 10

def readHex (s : String) : Nat := s.toList.foldl (fun n c => 16 * n + hexValue c) 0

def readNumbers (word : String) : List Nat := (word.splitOn ".").map readHex

def lineWords (lines : List String) : List (List Nat) :=
  lines.flatMap fun line => (line.splitOn " ").map readNumbers

def readRanges : (start : Nat) → List (List Nat) → List (Nat × Nat)
  | start, (gap :: rest) :: steps =>
    let low := start + gap
    let next := low + rest.headD 1
    (low, next - 1) :: readRanges next steps
  | start, [] :: steps => readRanges start steps
  | _, [] => []

def Property.chars (p : Property) : CharSet := ⟨readRanges 0 (lineWords p.steps)⟩

def findProperty (table : List Property) (name : String) : Option Property :=
  table.find? (·.names.contains name)

end Speedup.Unicode
