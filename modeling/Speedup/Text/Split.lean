/-!
# Splitting at a character
-/

namespace Speedup.Text

/-- The runs between the occurrences of a character; one more than there are occurrences. -/
def splitAt (separator : Char) : List Char → List (List Char)
  | [] => [[]]
  | c :: rest =>
    if c = separator then [] :: splitAt separator rest
    else
      match splitAt separator rest with
      | [] => [[c]]
      | run :: runs => (c :: run) :: runs

example : splitAt '/' ['a', '/', '/', 'b'] = [['a'], [], ['b']] := by decide +kernel

end Speedup.Text
