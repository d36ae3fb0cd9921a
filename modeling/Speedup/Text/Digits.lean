/-!
# Decimal digits

Runs of digits as lists of characters: their value, and the same value written back with a
given number of digits or in groups of three.
-/

namespace Speedup.Text

def digitsValue (start : Nat) (digits : List Char) : Nat :=
  digits.foldl (fun n c => 10 * n + (c.toNat - '0'.toNat)) start

@[simp] theorem digitsValue_nil (start : Nat) : digitsValue start [] = start := rfl

@[simp] theorem digitsValue_append (start : Nat) (xs ys : List Char) :
    digitsValue start (xs ++ ys) = digitsValue (digitsValue start xs) ys := by
  simp [digitsValue]

def spanDigits (cs : List Char) : List Char × List Char :=
  (cs.takeWhile Char.isDigit, cs.dropWhile Char.isDigit)

theorem spanDigits_append (cs : List Char) : (spanDigits cs).1 ++ (spanDigits cs).2 = cs := by
  simp [spanDigits]

def digits (n : Nat) : List Char := Nat.toDigits 10 n

/-- A text widened to `width` characters by zeros in front. -/
def zeroPadded (width : Nat) (cs : List Char) : List Char :=
  List.replicate (width - cs.length) '0' ++ cs

/-- Puts a comma behind every character that is followed by three others, six others and so on. -/
def groupFrom : List Char → List Char
  | [] => []
  | c :: rest => if rest.length % 3 = 0 && !rest.isEmpty then c :: ',' :: groupFrom rest
    else c :: groupFrom rest

def grouped (n : Nat) : String := String.ofList (groupFrom (digits n))

example : grouped 1234567 = "1,234,567" := by decide +kernel
example : grouped 999 = "999" := by decide +kernel

/-- A number from 0 to `limit - 1` in plain digits, with nothing else in the text. -/
def natBelow? (limit : Nat) (cs : List Char) : Option Nat :=
  if !cs.isEmpty && cs.all Char.isDigit && digitsValue 0 cs < limit then some (digitsValue 0 cs)
  else none

/-- A signed 64-bit number; the sign may be a plus. -/
def int64? (cs : List Char) : Option Int :=
  match cs with
  | '-' :: rest => (natBelow? (UInt64.size / 2 + 1) rest).map fun n => -(n : Int)
  | '+' :: rest => (natBelow? (UInt64.size / 2) rest).map Int.ofNat
  | _ => (natBelow? (UInt64.size / 2) cs).map Int.ofNat

end Speedup.Text
