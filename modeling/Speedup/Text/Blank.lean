/-!
# Blank characters

White space as the Unicode property has it, and what is built on it: trimming, splitting a text
into words, and texts that consist of one word.
-/

namespace Speedup.Text

/-- The characters with the White_Space property. -/
def isBlank (c : Char) : Bool :=
  let n := c.toNat
  (9 ≤ n && n ≤ 13) || n == 0x20 || n == 0x85 || n == 0xA0 || n == 0x1680 ||
    (0x2000 ≤ n && n ≤ 0x200A) || n == 0x2028 || n == 0x2029 || n == 0x202F || n == 0x205F ||
    n == 0x3000

def trimLeft (cs : List Char) : List Char := cs.dropWhile isBlank

def trimRight (cs : List Char) : List Char := (cs.reverse.dropWhile isBlank).reverse

def trim (s : String) : String := String.ofList (trimRight (trimLeft s.toList))

/-- The words of a text read after the word `current`, which is still open. -/
def wordsAfter (current : List Char) : List Char → List (List Char)
  | [] => if current.isEmpty then [] else [current]
  | c :: rest =>
    if isBlank c then
      if current.isEmpty then wordsAfter [] rest else current :: wordsAfter [] rest
    else wordsAfter (current ++ [c]) rest

/-- The maximal runs of characters that are not blank. -/
def words (s : String) : List String := (wordsAfter [] s.toList).map String.ofList

example : words " a  bc " = ["a", "bc"] := by decide +kernel
example : trim "\t x y\n" = "x y" := by decide +kernel

end Speedup.Text
