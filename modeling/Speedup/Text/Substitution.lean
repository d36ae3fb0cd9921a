/-!
# Replacing marks in a text

All occurrences of a mark are replaced from left to right; what is put in is not searched again.
-/

namespace Speedup.Text

/-- Replaces a mark after passing over the first `skip` characters, which belong to an occurrence
that is already replaced. -/
def replaceFrom (mark by' : List Char) : (skip : Nat) → List Char → List Char
  | _, [] => []
  | skip + 1, _ :: rest => replaceFrom mark by' skip rest
  | 0, c :: rest =>
    if mark.isPrefixOf (c :: rest) then by' ++ replaceFrom mark by' (mark.length - 1) rest
    else c :: replaceFrom mark by' 0 rest

def replaceAll (mark by' text : String) : String :=
  String.ofList (replaceFrom mark.toList by'.toList 0 text.toList)

example : replaceAll "aa" "b" "aaaxaa" = "baxb" := by decide +kernel

end Speedup.Text
