import Speedup.Double.Rounding

/-!
# Arithmetic of doubles

Each operation is the exact result on rational numbers, rounded once. A NaN operand is handed
on, the left one first; an operation without a result (infinity minus infinity, zero times
infinity, zero by zero, the root of a negative number) gives the NaN with the sign bit set.
The signs of zeros and infinities follow the usual rules.

The natural logarithm and the exponential function come from the machine. What is the same on every
machine is stated here: the operands without a logarithm, the exact points (`ln 1 = 0`, `exp 0 = 1`)
and the range that the results are in.
-/

namespace Speedup.Double

def invalid : Double := nan true

/-- Runs an operation on two numbers; a NaN is handed on. -/
def onNumbers (x y : Double) (f : Double) : Double :=
  if x.isNaN then x else if y.isNaN then y else f

protected def add (x y : Double) : Double :=
  onNumbers x y <|
    match x.value?, y.value? with
    | some r, some s =>
      if r + s = 0 then zero (x.negative && y.negative) else ofRat (r + s)
    | none, some _ => x
    | some _, none => y
    | none, none => if x.negative = y.negative then x else invalid

protected def sub (x y : Double) : Double := onNumbers x y (x.add y.neg)

protected def mul (x y : Double) : Double :=
  let negative := x.negative != y.negative
  onNumbers x y <|
    if x.isFinite && y.isFinite then ofMagnitude negative (x.absExact * y.absExact)
    else if x.isZero || y.isZero then invalid
    else infinity negative

protected def div (x y : Double) : Double :=
  let negative := x.negative != y.negative
  onNumbers x y <|
    if x.isInfinite then (if y.isInfinite then invalid else infinity negative)
    else if y.isInfinite then zero negative
    else if y.isZero then (if x.isZero then invalid else infinity negative)
    else ofMagnitude negative (x.absExact / y.absExact)

instance : Add Double := ⟨Double.add⟩
instance : Sub Double := ⟨Double.sub⟩
instance : Mul Double := ⟨Double.mul⟩
instance : Div Double := ⟨Double.div⟩

/-! ## Square root -/

/-- The largest `r` below `2 ^ bits` with `r * r ≤ n`, bit by bit from above. -/
def floorRoot (n : Nat) : Nat → Nat → Nat
  | 0, r => r
  | bit + 1, r =>
    let s := r + 1 <<< bit
    floorRoot n bit (if s * s ≤ n then s else r)

/-- Square root. The root is taken of the mantissa shifted so far that at least 60 bits of the
result are exact; half a unit stands for all that is cut off, which cannot be a tie. -/
def sqrt (x : Double) : Double :=
  if x.isNaN then x
  else if x.isZero then x
  else if x.negative then invalid
  else if x.isInfinite then x
  else
    let (m, q) := scaled x.magnitude
    let shift := 120 + (if q % 2 = 0 then 0 else 1)
    let n := m <<< shift
    let r := floorRoot n 90 0
    let e := (q - shift) / 2
    let twice := if r * r = n then 2 * r else 2 * r + 1
    ofMagnitude false (dyadic twice (e - 1))

/-! ## Logarithm and exponential -/

/-- What the machine computes of a number, held between two bounds. -/
def onMachine (f : Float → Float) (low high x : Double) : Double :=
  let y : Double := ⟨(f (Float.ofBits x.bits)).toBits⟩
  if low.lt y then if y.lt high then y else high else low

/-- Natural logarithm. That of one is exactly zero, and those of all finite numbers above zero are
between -745 and 710. -/
def ln (x : Double) : Double :=
  if x.isNaN then x
  else if x.isZero then infinity true
  else if x.negative then invalid
  else if x.isInfinite then x
  else if x = ofNat 1 then zero false
  else onMachine Float.log (ofNat 745).neg (ofNat 710) x

/-- Exponential function. Of zero it is exactly one, and of no number it is below zero. -/
def exp (x : Double) : Double :=
  if x.isNaN then x
  else if x.isZero then ofNat 1
  else onMachine Float.exp (zero false) (infinity false) x

/-! ## Remainder of a whole part -/

/-- What is left of a number without its whole part. -/
def fract (x : Double) : Double := x - x.trunc

example : (ofRat (1 / 10) + ofRat (2 / 10)).bits = 0x3FD3333333333334 := by decide +kernel
example : ofNat 1 / zero true = infinity true := by decide +kernel
example : zero false / zero false = nan true := by decide +kernel
example : infinity false - infinity false = nan true := by decide +kernel
example : zero true + zero true = zero true := by decide +kernel
example : ofNat 3 - ofNat 3 = zero false := by decide +kernel
example : sqrt (ofNat 2) = ⟨0x3FF6A09E667F3BCD⟩ := by decide +kernel
example : sqrt (ofNat 49) = ofNat 7 := by decide +kernel

end Speedup.Double
