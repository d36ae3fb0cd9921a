import Speedup.Toml.Scalar

/-!
# Quoted texts of TOML documents

Texts in double quotes know escapes, texts in single quotes stand for themselves. Three quotes
enclose several lines; a line break right after the opening ones does not count.
-/

namespace Speedup.Toml

def isTextChar (c : Char) : Bool := c = '\t' || (32 ≤ c.toNat && c.toNat ≠ 127)

def charOf? (digits : List Char) : Option Char :=
  let n := digits.foldl (fun n c => 16 * n + digitValue c) 0
  if digits.all (isDigitOf 16) && n.isValidChar then some (Char.ofNat n) else none

def escaped? (c : Char) : Option Char :=
  match c with
  | 'b' => some '\x08'
  | 't' => some '\t'
  | 'n' => some '\n'
  | 'f' => some '\x0c'
  | 'r' => some '\r'
  | '"' => some '"'
  | '\\' => some '\\'
  | _ => none

def before (c : Option Char) (next : Option (List Char × List Char)) :
    Option (List Char × List Char) :=
  match c, next with
  | some c, some (text, rest) => some (c :: text, rest)
  | _, _ => none

def basic : List Char → Option (List Char × List Char)
  | [] => none
  | '"' :: rest => some ([], rest)
  | '\\' :: 'u' :: a :: b :: c :: d :: rest => before (charOf? [a, b, c, d]) (basic rest)
  | '\\' :: 'U' :: a :: b :: c :: d :: e :: f :: g :: h :: rest =>
    before (charOf? [a, b, c, d, e, f, g, h]) (basic rest)
  | '\\' :: c :: rest => before (escaped? c) (basic rest)
  | c :: rest => if isTextChar c then before (some c) (basic rest) else none

def literal : List Char → Option (List Char × List Char)
  | [] => none
  | '\x27' :: rest => some ([], rest)
  | c :: rest => if isTextChar c then before (some c) (literal rest) else none

/-- Whether nothing but blanks stands before the end of the line. -/
def endsLine (cs : List Char) : Bool :=
  match cs.dropWhile fun c => c = ' ' || c = '\t' with
  | '\n' :: _ => true
  | '\r' :: '\n' :: _ => true
  | _ => false

/-- Several lines up to three double quotes, of which two more may belong to the text. A backslash
at the end of a line joins it to the next line that is not blank; `joining` tells that this has
begun. -/
def basicLines (joining : Bool) : List Char → Option (List Char × List Char)
  | [] => none
  | '"' :: '"' :: '"' :: '"' :: '"' :: rest => some (['"', '"'], rest)
  | '"' :: '"' :: '"' :: '"' :: rest => some (['"'], rest)
  | '"' :: '"' :: '"' :: rest => some ([], rest)
  | '\r' :: '\n' :: rest =>
    if joining then basicLines true rest else before (some '\n') (basicLines false rest)
  | '\\' :: 'u' :: a :: b :: c :: d :: rest =>
    before (charOf? [a, b, c, d]) (basicLines false rest)
  | '\\' :: 'U' :: a :: b :: c :: d :: e :: f :: g :: h :: rest =>
    before (charOf? [a, b, c, d, e, f, g, h]) (basicLines false rest)
  | '\\' :: c :: rest =>
    if endsLine (c :: rest) then basicLines true (c :: rest)
    else before (escaped? c) (basicLines false rest)
  | c :: rest =>
    if joining && (c = ' ' || c = '\t' || c = '\n') then basicLines true rest
    else if isTextChar c || c = '\n' then before (some c) (basicLines false rest)
    else none

/-- Several lines up to three single quotes, of which two more may belong to the text. -/
def literalLines : List Char → Option (List Char × List Char)
  | [] => none
  | '\x27' :: '\x27' :: '\x27' :: '\x27' :: '\x27' :: rest => some (['\x27', '\x27'], rest)
  | '\x27' :: '\x27' :: '\x27' :: '\x27' :: rest => some (['\x27'], rest)
  | '\x27' :: '\x27' :: '\x27' :: rest => some ([], rest)
  | '\r' :: '\n' :: rest => before (some '\n') (literalLines rest)
  | c :: rest =>
    if isTextChar c || c = '\n' then before (some c) (literalLines rest) else none

def dropLineBreak : List Char → List Char
  | '\n' :: rest => rest
  | '\r' :: '\n' :: rest => rest
  | cs => cs

def quoted? (cs : List Char) : Option (String × List Char) :=
  (match cs with
  | '"' :: '"' :: '"' :: rest => basicLines false (dropLineBreak rest)
  | '"' :: rest => basic rest
  | '\x27' :: '\x27' :: '\x27' :: rest => literalLines (dropLineBreak rest)
  | '\x27' :: rest => literal rest
  | _ => none).map fun (text, rest) => (String.ofList text, rest)

example : quoted? "\"\"\"\na \\\n  b\"\"\"\"x".toList = some ("a b\"", ['x']) := by decide +kernel

end Speedup.Toml
