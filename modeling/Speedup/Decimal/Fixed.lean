import Speedup.Decimal.Basic

/-!
# Writing a double with a fixed number of places

The exact value is rounded once to the given number of decimal places, a tie to the even last
digit. The sign is kept, also where the digits are all zero.
-/

namespace Speedup.Decimal

def pointed (places : Nat) (ds : List Char) : List Char :=
  if places = 0 then ds else ds.take (ds.length - places) ++ '.' :: ds.drop (ds.length - places)

/-- The distance from zero in `places` decimal places. No double has more than 1074 of them, so
further places are zeros. -/
def fixedMagnitude (places : Nat) (x : Double) : List Char :=
  let shown := min places 1074
  let (m, q) := Double.scaled x.magnitude
  let n := nearestEven ((m <<< q.toNat) * Nat.pow 10 shown) (1 <<< (-q).toNat)
  pointed shown (Text.zeroPadded (shown + 1) (Text.digits n)) ++ List.replicate (places - shown) '0'

def fixed (places : Nat) (x : Double) : String :=
  if x.isNaN then "NaN"
  else
    let body := if x.isInfinite then ['i', 'n', 'f'] else fixedMagnitude places x
    String.ofList (if x.negative then '-' :: body else body)

example : fixed 2 (Double.ofRat (1 / 8)) = "0.12" := by decide +kernel
example : fixed 0 (Double.ofRat (5 / 2)) = "2" := by decide +kernel
example : fixed 0 (Double.ofRat (7 / 2)) = "4" := by decide +kernel
example : fixed 1 (Double.ofRat (-1 / 100)) = "-0.0" := by decide +kernel

end Speedup.Decimal
