/-!
# Writing comma-separated values

A field is put in quotes if it holds a comma, a quote or the end of a line; quotes inside are
doubled. Every record ends with a line feed.

In the program: `to_csv_bytes` (`table`).
-/

namespace Speedup.Csv

def isSpecial (c : Char) : Bool := c == ',' || c == '"' || c == '\r' || c == '\n'

def doubleQuotes : List Char → List Char
  | [] => []
  | c :: rest => if c = '"' then '"' :: '"' :: doubleQuotes rest else c :: doubleQuotes rest

def field (s : String) : String :=
  if s.toList.any isSpecial then String.ofList ('"' :: (doubleQuotes s.toList ++ ['"'])) else s

def record (fields : List String) : String := String.intercalate "," (fields.map field) ++ "\n"

/-- A table with a header. Without rows nothing is written, not even the header. -/
def table (header : List String) (rows : List (List String)) : String :=
  if rows.isEmpty then "" else String.join ((header :: rows).map record)

example : field "a\"b" = "\"a\"\"b\"" := by decide +kernel
example : record ["a,b", "c"] = "\"a,b\",c\n" := by decide +kernel

end Speedup.Csv
