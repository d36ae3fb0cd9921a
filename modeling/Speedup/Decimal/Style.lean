import Speedup.Decimal.Shortest

/-!
# Writing a double with its shortest digits

The digits are those of `Decimal.shortest`; a `Style` decides where the point goes. A number is
written positionally if its point lies in the style's range, otherwise with one digit before
the point and an exponent.
-/

namespace Speedup.Decimal

/-- How shortest digits are laid out. The place of the point counts the digits before it; a
number below one has a place of zero or less. -/
structure Style where
  /-- The lowest place written positionally; no limit if absent. -/
  lowest : Option Int
  /-- The highest place written positionally; no limit if absent. -/
  highest : Option Int
  /-- Whether a whole number gets the ending `.0`. -/
  pointZero : Bool

namespace Style

/-- Never an exponent, and no point without digits behind it. -/
def plain : Style := ⟨none, none, false⟩

/-- Positional from 0.00001 to below ten to the sixteenth, with `.0` behind whole numbers. This
is how numbers stand in tables of values and in plots. -/
def cell : Style := ⟨some (-4), some 16, true⟩

def isPositional (s : Style) (place : Int) : Bool :=
  s.lowest.all (decide <| · ≤ place) && s.highest.all (decide <| place ≤ ·)

end Style

/-- Digits with the point at `place`, without an exponent. -/
def positional (pointZero : Bool) (ds : List Char) (place : Int) : List Char :=
  if place ≤ 0 then '0' :: '.' :: (List.replicate (-place).toNat '0' ++ ds)
  else if place < ds.length then ds.take place.toNat ++ '.' :: ds.drop place.toNat
  else
    ds ++ List.replicate (place.toNat - ds.length) '0' ++ if pointZero then ['.', '0'] else []

/-- One digit, the others behind a point, and the exponent. -/
def scientific (ds : List Char) (place : Int) : List Char :=
  let mantissa := match ds with
    | d :: e :: rest => d :: '.' :: e :: rest
    | ds => ds
  mantissa ++ 'e' :: (toString (place - 1)).toList

def Style.text (s : Style) (x : Double) : String :=
  if x.isNaN then "NaN"
  else
    let body :=
      if x.isInfinite then ['i', 'n', 'f']
      else if x.isZero then '0' :: if s.pointZero then ['.', '0'] else []
      else
        let d := shortest x
        let ds := Text.digits d.digits
        let place := ds.length + d.exponent
        if s.isPositional place then positional s.pointZero ds place else scientific ds place
    String.ofList (if x.negative then '-' :: body else body)

example : Style.plain.text (Double.ofNat (10 ^ 21)) = "1000000000000000000000" := by decide +kernel
example : Style.cell.text (Double.ofNat 20) = "20.0" := by decide +kernel
example : Style.cell.text (Double.ofRat (1 / 100000)) = "0.00001" := by decide +kernel
example : Style.cell.text (Double.ofRat (3 / 2000000)) = "1.5e-6" := by decide +kernel
example : Style.plain.text (Double.zero true) = "-0" := by decide +kernel

end Speedup.Decimal
