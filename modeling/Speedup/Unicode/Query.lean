import Speedup.Unicode.BinaryProperty
import Speedup.Unicode.CaseFolding
import Speedup.Unicode.GeneralCategory
import Speedup.Unicode.Script
import Speedup.Unicode.ScriptExtensions

/-!
# Looking up sets of characters

The characters with a property that is asked for by name, and the closure of a set under changes
of case.
-/

namespace Speedup.Unicode

/-! ## Names -/

/-- A name without its case, blanks, underscores and hyphens, and without a leading `is`. -/
def looseName (name : String) : String :=
  let plain := fun cs : List Char =>
    (cs.filter fun c => c.toNat < 0x80 && c ≠ ' ' && c ≠ '_' && c ≠ '-').map Char.toLower
  match name.toList with
  | i :: s :: rest =>
    if (i == 'i' || i == 'I') && (s == 's' || s == 'S') then
      let rest := plain rest
      if rest == ['c'] then "isc" else String.ofList rest
    else String.ofList (plain name.toList)
  | cs => String.ofList (plain cs)

/-! ## General categories -/

def categoryGroups : List (List String × List String) :=
  [(["l", "letter"], ["lu", "ll", "lt", "lm", "lo"]),
    (["lc", "casedletter"], ["lu", "ll", "lt"]),
    (["m", "mark", "combiningmark"], ["mn", "mc", "me"]),
    (["n", "number"], ["nd", "nl", "no"]),
    (["p", "punctuation", "punct"], ["pc", "pd", "ps", "pe", "pi", "pf", "po"]),
    (["s", "symbol"], ["sm", "sc", "sk", "so"]),
    (["z", "separator"], ["zs", "zl", "zp"]),
    (["c", "other"], ["cc", "cf", "cn", "co"])]

def category (name : String) : CharSet :=
  ((findProperty generalCategories name).map Property.chars).getD .empty

def categories (names : List String) : CharSet :=
  (names.map category).foldl CharSet.union .empty

/-- The characters of a general category or a group of them; `name` is a loose name. -/
def categoryNamed? (name : String) : Option CharSet :=
  if name = "any" then some .all
  else if name = "ascii" then some (.range 0 0x7F)
  else if name = "assigned" then some ((category "cn").complement CharSet.last)
  else
    match categoryGroups.find? (·.1.contains name) with
    | some (_, members) => some (categories members)
    | none => (findProperty generalCategories name).map Property.chars

/-! ## Properties -/

def scriptNamed? (name : String) : Option CharSet :=
  (findProperty scripts name).map Property.chars

def scriptExtensionsNamed? (name : String) : Option CharSet :=
  ((findProperty scriptExtensions name).map Property.chars) <|> scriptNamed? name

/-- The characters with a property that stands alone: one that a character has or has not, a
general category or a script. Three short names are those of categories, not of properties. -/
def propertyNamed? (name : String) : Option CharSet :=
  let name := looseName name
  let binary :=
    if ["cf", "sc", "lc"].contains name then none
    else (findProperty binaryProperties name).map Property.chars
  binary <|> categoryNamed? name <|> scriptNamed? name

def propertyWithValue? (name value : String) : Option CharSet :=
  let value := looseName value
  match looseName name with
  | "gc" | "generalcategory" => categoryNamed? value
  | "sc" | "script" => scriptNamed? value
  | "scx" | "scriptextensions" => scriptExtensionsNamed? value
  | _ => none

def binary (name : String) : CharSet :=
  ((findProperty binaryProperties name).map Property.chars).getD .empty

def digits : CharSet := category "nd"

def spaces : CharSet := binary "whitespace"

def letters : CharSet := binary "alphabetic"

def alphanumerics : CharSet := letters.union (categories ["nd", "nl", "no"])

def wordChars : CharSet :=
  (letters.union (categories ["mn", "mc", "me", "nd", "pc"])).union (binary "joincontrol")

/-! ## Case -/

def runPairs : List Nat → List (List Nat)
  | [first, distance] => [[first, first + distance]]
  | [first, distance, count, step] =>
    (List.range count).map fun i => [first + i * step, first + i * step + distance]
  | _ => []

def caseClasses : List (List Nat) :=
  (lineWords casePairs).flatMap runPairs ++ lineWords caseSets

/-- A set together with the other cases of its characters. -/
def foldCase (s : CharSet) : CharSet :=
  let s := s.normalize
  let more := (caseClasses.filter fun cls => cls.any s.containsCode).flatten
  (s.union ⟨more.map fun n => (n, n)⟩).normalize

/-- A set of the letters from A to Z together with their other cases. -/
def foldPlainCase (s : CharSet) : CharSet :=
  let letters := (List.range 26).map fun i => [0x41 + i, 0x61 + i]
  let more := (letters.filter fun cls => cls.any s.containsCode).flatten
  (s.union ⟨more.map fun n => (n, n)⟩).normalize

end Speedup.Unicode
