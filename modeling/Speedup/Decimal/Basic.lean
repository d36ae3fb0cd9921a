import Speedup.Double.Rounding
import Speedup.Text.Digits

/-!
# Decimal numerals

A decimal `digits * 10 ^ exponent`, the double it reads as, and the reader for numbers in
decimal writing: an optional sign, digits with an optional point (at least one digit on either
side of it), an optional exponent; or, in any case of letters, `inf`, `infinity`, `nan`.
-/

namespace Speedup

/-- The number `digits * 10 ^ exponent`. -/
structure Decimal where
  digits : Nat
  exponent : Int
  deriving DecidableEq, Repr

namespace Decimal

/-- The double nearest to a decimal. Far outside the range of doubles the answer is known from
the number of digits alone. -/
def toDouble (negative : Bool) (d : Decimal) : Double :=
  let size := (Text.digits d.digits).length + d.exponent
  if d.digits = 0 || size < -400 then Double.zero negative
  else if 400 < size then Double.infinity negative
  else
    Double.ofParts negative
      (Double.roundMagnitude (d.digits * Nat.pow 10 d.exponent.toNat)
        (Nat.pow 10 (-d.exponent).toNat))

/-! ## Reading -/

def readExponent? (cs : List Char) : Option (Int × List Char) :=
  let (negative, cs) := match cs with
    | '-' :: rest => (true, rest)
    | '+' :: rest => (false, rest)
    | _ => (false, cs)
  let (ds, rest) := Text.spanDigits cs
  if ds.isEmpty then none
  else
    let n : Int := Text.digitsValue 0 ds
    some (if negative then -n else n, rest)

/-- Digits with an optional point and exponent at the front of a text. -/
def read? (cs : List Char) : Option (Decimal × List Char) :=
  let (whole, rest) := Text.spanDigits cs
  let (fraction, rest) := match rest with
    | '.' :: more => Text.spanDigits more
    | _ => ([], rest)
  if whole.isEmpty && fraction.isEmpty then none
  else
    let digits := Text.digitsValue 0 (whole ++ fraction)
    let places : Int := fraction.length
    match rest with
    | c :: more =>
      if c = 'e' || c = 'E' then
        (readExponent? more).map fun (e, rest) => (⟨digits, e - places⟩, rest)
      else some (⟨digits, -places⟩, rest)
    | [] => some (⟨digits, -places⟩, [])

/-- A text without its sign; a text without a sign is positive. -/
def splitSign (cs : List Char) : Bool × List Char :=
  match cs with
  | '-' :: rest => (true, rest)
  | '+' :: rest => (false, rest)
  | _ => (false, cs)

def parse? (text : String) : Option Double :=
  let (negative, cs) := splitSign text.toList
  let word := String.ofList (cs.map Char.toLower)
  if word = "inf" || word = "infinity" then some (Double.infinity negative)
  else if word = "nan" then some (Double.nan negative)
  else
    match read? cs with
    | some (d, []) => some (d.toDouble negative)
    | _ => none

end Decimal

end Speedup
