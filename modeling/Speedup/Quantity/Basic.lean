import Speedup.Decimal.Style
import Speedup.Double.Arithmetic
import Speedup.Text.Blank
import Speedup.Text.Letters

/-!
# Quantities

A value together with the text of its unit is a span of time, an amount of data or a plain count.
Which one it is, is found by writing the value directly before the unit, or a blank apart, and
reading the result: first as a time, then as a size. What reads as neither is a count.

In the program: `quantity` (`ofValue`), `parse_duration` and `parse_data_size`.
-/

namespace Speedup

inductive Quantity where
  | duration (seconds nanoseconds : Nat)
  | size (bytes : Nat)
  | count (value : Double)
  deriving DecidableEq, Repr

namespace Quantity

def limit : Nat := UInt64.size - 1

/-! ## Times -/

/-- A unit of time: its name, a power of ten and a factor, which together are its seconds. -/
structure TimeUnit where
  name : String
  exponent : Int
  factor : Nat

/-- The units of time. A number without a unit is in seconds. -/
def timeUnits : List TimeUnit :=
  [⟨"", 0, 1⟩, ⟨"ns", -9, 1⟩, ⟨"Ms", -6, 1⟩, ⟨"ms", -3, 1⟩, ⟨"s", 0, 1⟩, ⟨"m", 0, 60⟩,
    ⟨"h", 0, 3600⟩, ⟨"d", 0, 86400⟩, ⟨"w", 0, 604800⟩, ⟨"M", 0, 2629800⟩, ⟨"y", 0, 31557600⟩]

def nanosecondsPerSecond : Nat := 1_000_000_000

def attosecondsPerNanosecond : Nat := 1_000_000_000

/-- A decimal number of some unit of time. The number is cut after its eighteenth place and the
product after the ninth. -/
def durationOf (d : Decimal) (unit : TimeUnit) : Quantity :=
  let e := d.exponent + unit.exponent + 18
  let atto := d.digits * Nat.pow 10 e.toNat / Nat.pow 10 (-e).toNat * unit.factor
  let nanoseconds := atto / attosecondsPerNanosecond
  let seconds := nanoseconds / nanosecondsPerSecond
  if limit < seconds then .duration limit 999999999
  else .duration seconds (nanoseconds % nanosecondsPerSecond)

def isShortExponent (e : Int) : Bool := -32768 ≤ e && e < 32768

/-- The number before a unit of time: digits, then perhaps a point with or without digits behind
it, then perhaps an exponent. -/
def readTimeNumber? (cs : List Char) : Option (Decimal × List Char) :=
  let (whole, rest) := Text.spanDigits cs
  if whole.isEmpty then none
  else
    let (fraction, rest) := match rest with
      | '.' :: more => Text.spanDigits more
      | _ => ([], rest)
    let digits := Text.digitsValue 0 (whole ++ fraction)
    let places : Int := fraction.length
    match rest with
    | c :: more =>
      if c = 'e' || c = 'E' then
        match Decimal.readExponent? more with
        | some (e, rest) =>
          if isShortExponent e then some (⟨digits, e - places⟩, rest) else none
        | none => none
      else some (⟨digits, -places⟩, rest)
    | [] => some (⟨digits, -places⟩, [])

/-- The time a text stands for. A time below zero is none. -/
def readDuration? (text : String) : Option Quantity :=
  let (negative, cs) := match text.toList with
    | '-' :: rest => (true, rest)
    | cs => (false, cs)
  match readTimeNumber? cs with
  | none => none
  | some (d, rest) =>
    match timeUnits.find? (·.name == String.ofList rest) with
    | none => none
    | some unit => if negative && d.digits ≠ 0 then none else some (durationOf d unit)

/-! ## Sizes -/

/-- The names of the units of data, in lower case, with their bytes. -/
def sizeUnits : List (String × Nat) :=
  let powers : List (String × Nat × Nat) :=
    [("b", 1000, 0), ("k", 1000, 1), ("kb", 1000, 1), ("m", 1000, 2), ("mb", 1000, 2),
      ("g", 1000, 3), ("gb", 1000, 3), ("t", 1000, 4), ("tb", 1000, 4), ("p", 1000, 5),
      ("pb", 1000, 5), ("e", 1000, 6), ("eb", 1000, 6), ("ki", 1024, 1), ("kib", 1024, 1),
      ("mi", 1024, 2), ("mib", 1024, 2), ("gi", 1024, 3), ("gib", 1024, 3), ("ti", 1024, 4),
      ("tib", 1024, 4), ("pi", 1024, 5), ("pib", 1024, 5), ("ei", 1024, 6), ("eib", 1024, 6)]
  powers.map fun (name, base, exponent) => (name, Nat.pow base exponent)

/-- A number of some unit of data: exact if the number is written without a point, otherwise
through a double. -/
def sizeOf? (number : List Char) (factor : Nat) : Option Nat :=
  match Text.natBelow? UInt64.size number with
  | some n => some (min (n * factor) limit)
  | none =>
    (Decimal.parse? (String.ofList number)).map fun x =>
      (x * Double.ofNat factor).toUInt64Clamped

/-- The size a text stands for: a whole number of bytes, or a number of some unit of data with
blanks allowed between them. -/
def readSize? (text : String) : Option Quantity :=
  let cs := text.toList
  match Text.natBelow? UInt64.size cs with
  | some n => some (.size n)
  | none =>
    let isNumeral := fun c : Char => c.isDigit || c == '.'
    let number := cs.takeWhile isNumeral
    let unit := Text.lower (String.ofList (Text.trimLeft (cs.dropWhile isNumeral)))
    match sizeUnits.find? (·.1 == unit) with
    | none => none
    | some (_, factor) => (sizeOf? number factor).map .size

/-! ## Reading a value in its unit -/

/-- The number written directly before the unit, and a blank apart from it. -/
def writings (value : Double) (unit : String) : List String :=
  let number := Decimal.Style.plain.text value
  [number ++ unit, number ++ " " ++ unit]

def sizeName (unit : String) : String := if Text.sameLetters unit "bytes" then "B" else unit

/-- What a value means in its unit. Only a finite value that is not below zero can be a time or a
size. -/
def ofValue (value : Double) (unit : String) : Quantity :=
  if value.isFinite && !value.lt 0 then
    ((writings value unit).findSome? readDuration? <|>
      (writings value (sizeName unit)).findSome? readSize?).getD (.count value)
  else .count value

end Quantity

end Speedup
