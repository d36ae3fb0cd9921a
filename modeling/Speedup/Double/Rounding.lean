import Speedup.Double.Basic

/-!
# Rounding to the nearest double

Every operation that leaves the doubles is computed exactly on rational numbers and rounded
once: to the nearest double, a tie to the one with the even last bit, beyond the largest double
to infinity.
-/

namespace Speedup

/-- The whole number nearest to `n / d`; of two equally near ones the even one. -/
def nearestEven (n d : Nat) : Nat :=
  let q := n / d
  let r := n % d
  if 2 * r < d then q else if d < 2 * r then q + 1 else if q % 2 = 0 then q else q + 1

theorem nearestEven_mul (q d : Nat) (h : 0 < d) : nearestEven (q * d) d = q := by
  simp [nearestEven, Nat.mul_div_cancel _ h, h]

theorem nearestEven_bounds (n d : Nat) :
    n / d ≤ nearestEven n d ∧ nearestEven n d ≤ n / d + 1 := by
  simp only [nearestEven]
  split
  · omega
  · split
    · omega
    · split <;> omega

namespace Double

def belowPower (n d : Nat) (e : Int) : Bool := n <<< (-e).toNat < d <<< e.toNat

/-- The exponent `e` with `2 ^ e ≤ n / d < 2 ^ (e + 1)`, for positive `n` and `d`. -/
def binade (n d : Nat) : Int :=
  let e : Int := (n.log2 : Int) - d.log2
  if belowPower n d e then e - 1 else e

/-- Magnitude bits of the double nearest to `n / d`. The mantissa is counted in units of the
last place, so that a carry out of it steps into the next exponent by itself. -/
def roundMagnitude (n d : Nat) : Nat :=
  if n = 0 then 0
  else
    let q := max (binade n d - 52) (-1074)
    let m := nearestEven (n <<< (-q).toNat) (d <<< q.toNat)
    min ((q + 1074).toNat * 0x10000000000000 + m) infinityBits

def ofMagnitude (negative : Bool) (r : Rat) : Double :=
  ofParts negative (roundMagnitude r.num.natAbs r.den)

/-- The double nearest to `r`; zero is positive. -/
def ofRat (r : Rat) : Double := ofMagnitude (decide (r < 0)) r

def ofNat (n : Nat) : Double := ofParts false (roundMagnitude n 1)

instance : NatCast Double := ⟨ofNat⟩
instance {n : Nat} : OfNat Double n := ⟨ofNat n⟩

example : ofNat 0 = zero false := by decide +kernel
example : ofNat 1 = ⟨0x3FF0000000000000⟩ := by decide +kernel
example : ofNat (2 ^ 53 + 1) = ofNat (2 ^ 53) := by decide +kernel
example : ofNat (2 ^ 53 + 3) = ofNat (2 ^ 53 + 4) := by decide +kernel
example : ofNat (10 ^ 309) = infinity false := by decide +kernel
example : ofRat (1 / 10) = ⟨0x3FB999999999999A⟩ := by decide +kernel

/-! ## Whole parts -/

/-- The whole part of the distance from zero of a finite double. -/
def wholePart (x : Double) : Nat :=
  let (m, q) := scaled x.magnitude
  if 0 ≤ q then m <<< q.toNat else m >>> (-q).toNat

/-- Rounds toward zero; what is not finite stays as it is. -/
def trunc (x : Double) : Double :=
  if x.isFinite then ofParts x.negative (roundMagnitude x.wholePart 1) else x

/-- Rounds to the nearest whole number, a half away from zero. -/
def round (x : Double) : Double :=
  if x.isFinite then
    let (m, q) := scaled x.magnitude
    if 0 ≤ q then x
    else ofParts x.negative (roundMagnitude ((m + 1 <<< ((-q).toNat - 1)) >>> (-q).toNat) 1)
  else x

/-- The whole part as a number from 0 to `limit - 1`, clamped; a NaN gives 0. -/
def toNatClamped (limit : Nat) (x : Double) : Nat :=
  if x.isNaN || x.negative then 0
  else if x.isInfinite then limit - 1
  else min x.wholePart (limit - 1)

def toUInt64Clamped (x : Double) : Nat := x.toNatClamped UInt64.size

def toInt64Clamped (x : Double) : Int :=
  if x.isNaN then 0
  else if x.negative then -((x.abs.toNatClamped (UInt64.size / 2 + 1) : Nat) : Int)
  else (x.toNatClamped (UInt64.size / 2) : Nat)

example : toUInt64Clamped (ofRat (7 / 2)) = 3 := by decide +kernel
example : toInt64Clamped (ofRat (-7 / 2)) = -3 := by decide +kernel
example : round (ofRat (5 / 2)) = ofNat 3 := by decide +kernel

end Double

end Speedup
