import Speedup.Quantity.Basic
import Speedup.Decimal.Fixed

/-!
# Quantities in a fitting scale

A quantity is shown in the first scale in which it is small enough once it is rounded: times in
nanoseconds to seconds and then as minutes or hours, sizes in powers of a thousand bytes.

In the program: `humanize`.
-/

namespace Speedup.Quantity

/-- A number rounded to some places, through its multiple by a power of ten. -/
def rounded (places : Nat) (x : Double) : Double :=
  (x * Double.ofNat (Nat.pow 10 places)).round / Double.ofNat (Nat.pow 10 places)

def shortFixed (places : Nat) (x : Double) : String :=
  if x.fract.isZero then Decimal.fixed 0 x
  else if (x * 10).fract.isZero then Decimal.fixed 1 x
  else Decimal.fixed places x

/-- A scale: its name, the places shown in it and the number at which the next scale begins. -/
structure Scale where
  name : String
  places : Nat
  next : Nat

/-- The number in the first scale it fits, or what it is beyond the last one. -/
def fit (x : Double) : List Scale → Sum Double String
  | [] => .inl x
  | s :: rest =>
    let r := rounded s.places x
    if r.lt (Double.ofNat s.next) then .inr (shortFixed s.places r ++ s.name)
    else fit (x / Double.ofNat s.next) rest

def twoDigits (n : Nat) : String := String.ofList (Text.zeroPadded 2 (Text.digits n))

def moduloSixty (x : Double) : Double :=
  match x.value? with
  | some r => Double.ofRat (r - ((r / 60).floor : Rat) * 60)
  | none => Double.invalid

/-- Seconds as minutes and seconds with at most one place, or from an hour on as hours, minutes
and whole seconds. -/
def clock (x : Double) : String :=
  let seconds := rounded 1 x
  let minutes := seconds / 60
  let rest := moduloSixty seconds
  if minutes.lt 60 then
    let tenths := rounded 1 rest
    let shown :=
      if tenths.fract.isZero then twoDigits tenths.wholePart
      else String.ofList (Text.zeroPadded 4 (Decimal.fixed 1 tenths).toList)
    Decimal.fixed 0 minutes.trunc ++ ":" ++ shown
  else
    Decimal.fixed 0 (minutes / 60).trunc ++ ":" ++ twoDigits (moduloSixty minutes).wholePart ++
      ":" ++ twoDigits rest.wholePart

def timeScales : List Scale := [⟨"ns", 1, 1000⟩, ⟨"µs", 1, 1000⟩, ⟨"ms", 1, 1000⟩]

def showDuration (seconds nanoseconds : Nat) : String :=
  let x := Double.ofNat seconds + Double.ofNat nanoseconds / Double.ofNat nanosecondsPerSecond
  match fit (x * Double.ofNat nanosecondsPerSecond) timeScales with
  | .inr text => text
  | .inl x =>
    let r := rounded 2 x
    if r.lt 60 then shortFixed 2 r ++ "s" else clock x

def sizeScales : List Scale :=
  [⟨"B", 1, 1000⟩, ⟨"kB", 1, 1000⟩, ⟨"MB", 1, 1000⟩, ⟨"GB", 2, 1000⟩, ⟨"TB", 2, 1000⟩,
    ⟨"PB", 2, 1000⟩]

def showSize (bytes : Nat) : String :=
  match fit (Double.ofNat bytes) sizeScales with
  | .inr text => text
  | .inl x => shortFixed 2 (rounded 2 x) ++ "EB"

def humanize : Quantity → String
  | .duration seconds nanoseconds => showDuration seconds nanoseconds
  | .size bytes => showSize bytes
  | .count x => if x.fract.isZero then Decimal.fixed 0 x else Decimal.fixed 3 x

end Speedup.Quantity
