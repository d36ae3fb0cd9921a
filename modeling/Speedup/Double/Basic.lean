/-!
# Doubles as bit patterns

A double is its 64 bits: a sign, an eleven-bit exponent and a 52-bit fraction. Everything the
program shows of a number is decided by these bits, also where two numbers compare as equal
(the two zeros) or where one does not equal itself (a NaN). So equality of `Double` is equality
of bits, and the two comparisons the program uses are functions beside it:

- `Double.lt` and `Double.ieeeEq` compare values: a NaN is unordered, the two zeros are equal;
- `Double.totalLE` orders all bit patterns: negative NaN, numbers, positive NaN.

`Double.value?` is the rational number that a finite double stands for.
-/

namespace Speedup

/-- A double-precision number, given by its bits. -/
structure Double where
  bits : UInt64
  deriving DecidableEq, Repr, Hashable

namespace Double

/-! ## The parts of a double -/

def signWeight : Nat := 0x8000000000000000

/-- The magnitude bits of infinity: all exponent bits set, no fraction. -/
def infinityBits : Nat := 0x7FF0000000000000

def magnitude (x : Double) : Nat := x.bits.toNat % signWeight

def negative (x : Double) : Bool := signWeight ≤ x.bits.toNat

def ofParts (negative : Bool) (magnitude : Nat) : Double :=
  ⟨UInt64.ofNat (if negative then signWeight + magnitude else magnitude)⟩

def zero (negative : Bool) : Double := ofParts negative 0
def infinity (negative : Bool) : Double := ofParts negative infinityBits

def nan (negative : Bool) : Double := ofParts negative (infinityBits + 0x8000000000000)

def isNaN (x : Double) : Bool := infinityBits < x.magnitude
def isInfinite (x : Double) : Bool := x.magnitude == infinityBits
def isFinite (x : Double) : Bool := x.magnitude < infinityBits
def isZero (x : Double) : Bool := x.magnitude == 0

def neg (x : Double) : Double := ofParts (!x.negative) x.magnitude

def abs (x : Double) : Double := ofParts false x.magnitude

/-! ## The exact value -/

/-- Mantissa and exponent `(m, q)` of finite magnitude bits, which stand for `m * 2 ^ q`. The
smallest exponent is shared by the numbers without a leading one. -/
def scaled (magnitude : Nat) : Nat × Int :=
  let exponent : Nat := magnitude / 0x10000000000000
  let fraction : Nat := magnitude % 0x10000000000000
  if exponent = 0 then (fraction, -1074)
  else (0x10000000000000 + fraction, (exponent : Int) - 1075)

def dyadic (m : Nat) (q : Int) : Rat :=
  if 0 ≤ q then ((m <<< q.toNat : Nat) : Rat) else mkRat m (1 <<< (-q).toNat)

/-- The distance from zero of a double with finite magnitude. -/
def absExact (x : Double) : Rat := dyadic (scaled x.magnitude).1 (scaled x.magnitude).2

def value? (x : Double) : Option Rat :=
  if x.isFinite then some (if x.negative then -x.absExact else x.absExact) else none

/-! ## Two orders -/

/-- The place of a number among the numbers; both zeros have the same. -/
def place (x : Double) : Int := if x.negative then -(x.magnitude : Int) else x.magnitude

/-- Numerical order; false as soon as a NaN is involved. -/
def lt (x y : Double) : Bool := !x.isNaN && !y.isNaN && decide (x.place < y.place)

/-- Numerical equality; false as soon as a NaN is involved. -/
def ieeeEq (x y : Double) : Bool := !x.isNaN && !y.isNaN && decide (x.place = y.place)

/-- The place of a bit pattern in the order of all bit patterns; negative zero comes directly
before zero. -/
def totalPlace (x : Double) : Int :=
  if x.negative then -(x.magnitude : Int) - 1 else x.magnitude

def totalLE (x y : Double) : Bool := decide (x.totalPlace ≤ y.totalPlace)

theorem totalLE_total (x y : Double) : (x.totalLE y || y.totalLE x) = true := by
  simp only [totalLE, Bool.or_eq_true, decide_eq_true_eq]
  omega

theorem totalLE_trans {x y z : Double} (h : x.totalLE y = true) (k : y.totalLE z = true) :
    x.totalLE z = true := by
  simp only [totalLE, decide_eq_true_eq] at *
  omega

end Double

end Speedup
