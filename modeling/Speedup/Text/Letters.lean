/-!
# Letters of either case

Comparison of texts in which the 26 letters of the Latin alphabet count the same in either case
and every other character only equals itself.
-/

namespace Speedup.Text

def lower (s : String) : String := String.ofList (s.toList.map Char.toLower)

/-- Whether two texts differ at most in the case of the letters from A to Z. -/
def sameLetters (s t : String) : Bool := lower s == lower t

theorem sameLetters_refl (s : String) : sameLetters s s = true := by simp [sameLetters]

end Speedup.Text
