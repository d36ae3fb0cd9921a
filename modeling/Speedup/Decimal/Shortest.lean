import Speedup.Decimal.Basic

/-!
# The shortest decimal of a double

Among all decimals that read back as a given double, `shortest` takes one with the fewest
digits and of those the one nearest to the double. It tries grids of powers of ten from coarse
to fine. On each grid only the two points next to the double can be nearest to it, so the first
grid with a point that reads back decides the number of digits.

A candidate is tested by reading it, so whatever `shortest` returns reads back.
-/

namespace Speedup.Decimal

def readsBack (x : Double) (d : Decimal) : Bool := d.toDouble false == x.abs

/-- The point of the grid `10 ^ j` nearest to the distance of `x` from zero that reads back. -/
def gridPoint? (x : Double) (j : Int) : Option Decimal :=
  let (m, q) := Double.scaled x.magnitude
  let n := (m <<< q.toNat) * Nat.pow 10 (-j).toNat
  let w := Nat.pow 10 j.toNat <<< (-q).toNat
  let lower : Decimal := ⟨n / w, j⟩
  let upper : Decimal := ⟨n / w + 1, j⟩
  let candidates := if 2 * (n % w) < w then [lower, upper] else [upper, lower]
  candidates.find? (readsBack x)

theorem readsBack_of_gridPoint? {x : Double} {j : Int} {d : Decimal}
    (h : gridPoint? x j = some d) : readsBack x d = true :=
  List.find?_some h

def expansion (x : Double) : Decimal :=
  let (m, q) := Double.scaled x.magnitude
  if 0 ≤ q then ⟨m <<< q.toNat, 0⟩ else ⟨m * Nat.pow 5 (-q).toNat, q⟩

/-- Tries the grids from `10 ^ j` downward, at most `count` of them. -/
def searchGrids (x : Double) : (count : Nat) → (j : Int) → Decimal
  | 0, _ => expansion x
  | count + 1, j =>
    match gridPoint? x j with
    | some d => d
    | none => searchGrids x count (j - 1)

/-- The shortest decimal that reads back as the distance from zero of a finite double. The
search starts at a power of ten above the double, and seventeen digits always suffice. -/
def shortest (x : Double) : Decimal :=
  let (m, q) := Double.scaled x.magnitude
  if m = 0 then ⟨0, 0⟩
  else searchGrids x 24 (((m.log2 : Int) + q + 1) * 30103 / 100000 + 1)

example : shortest (Double.ofRat (1 / 10)) = ⟨1, -1⟩ := by decide +kernel
example : shortest ⟨1⟩ = ⟨5, -324⟩ := by decide +kernel
example : shortest ⟨0x7FEFFFFFFFFFFFFF⟩ = ⟨17976931348623157, 292⟩ := by decide +kernel
example : shortest (Double.ofNat (2 ^ 53)) = ⟨9007199254740992, 0⟩ := by decide +kernel
example : shortest (Double.ofNat (10 ^ 22)) = ⟨1, 22⟩ := by decide +kernel

end Speedup.Decimal
