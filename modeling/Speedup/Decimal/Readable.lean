import Speedup.Decimal.Fixed
import Speedup.Double.Arithmetic

/-!
# Numbers for reading

A number in reading form has commas between groups of three digits and three places behind the
point. The places are cut from the text of the remainder: nothing is carried into the whole part,
and the whole part of a negative number counts as zero.
-/

namespace Speedup.Decimal

/-- A double in reading form. A text of more than 22 characters is not shown. -/
def readable (x : Double) : String :=
  if x.isNaN then "NaN"
  else if x.isInfinite then "inf"
  else
    let places := String.ofList ((fixed 3 x.fract).toList.drop 2)
    let text := Text.grouped x.toUInt64Clamped ++ "." ++ places
    if 22 < text.length then "?.???" else text

example : readable (Double.ofRat (4938271 / 4)) = "1,234,567.750" := by decide +kernel
example : readable (Double.ofRat (19996 / 10000)) = "1.000" := by decide +kernel
example : readable (Double.ofRat (-3 / 4)) = "0..750" := by decide +kernel

end Speedup.Decimal
