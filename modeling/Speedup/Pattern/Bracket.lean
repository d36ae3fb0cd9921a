import Speedup.Pattern.Reading

/-!
# Sets of characters in brackets

Between brackets stand characters, ranges, escapes, named sets and further brackets, whose union
is meant, and the signs of intersection, difference and symmetric difference between unions. The
signs bind all alike and to the left.
-/

namespace Speedup.Pattern

open Unicode

inductive SetSign where
  | inter
  | diff
  | symmDiff
  deriving DecidableEq, Repr

/-- A set, and how deeply the brackets that describe it are nested. -/
structure Nested where
  set : CharSet
  depth : Nat

/-- What is still open: a bracket, with the union it belongs to, or a sign with its left side. -/
inductive Open where
  | bracket (outer : List Nested) (negated : Bool)
  | sign (s : SetSign) (left : Nested)

/-- The union of what is listed, last first. Two parts or more are a level of nesting. -/
def unionOf (parts : List Nested) : Nested :=
  match parts with
  | [] => ⟨.empty, 0⟩
  | [part] => part
  | parts => ⟨parts.foldl (fun s p => s.union p.set) .empty, (parts.map (·.depth)).foldl max 0 + 1⟩

def applySign (o : Options) (right : Nested) : List Open → Nested × List Open
  | .sign s left :: stack =>
    let a := o.fold left.set
    let b := o.fold right.set
    let set := match s with
      | .inter => a.inter b
      | .diff => a.diff b
      | .symmDiff => a.symmDiff b
    (⟨set, max left.depth right.depth + 1⟩, stack)
  | stack => (right, stack)

def namedSets : List (String × List (Nat × Nat)) :=
  [("alnum", [(0x30, 0x39), (0x41, 0x5A), (0x61, 0x7A)]), ("alpha", [(0x41, 0x5A), (0x61, 0x7A)]),
    ("ascii", [(0x00, 0x7F)]), ("blank", [(0x09, 0x09), (0x20, 0x20)]),
    ("cntrl", [(0x00, 0x1F), (0x7F, 0x7F)]), ("digit", [(0x30, 0x39)]),
    ("graph", [(0x21, 0x7E)]), ("lower", [(0x61, 0x7A)]), ("print", [(0x20, 0x7E)]),
    ("punct", [(0x21, 0x2F), (0x3A, 0x40), (0x5B, 0x60), (0x7B, 0x7E)]),
    ("space", [(0x09, 0x0D), (0x20, 0x20)]), ("upper", [(0x41, 0x5A)]),
    ("word", [(0x30, 0x39), (0x41, 0x5A), (0x5F, 0x5F), (0x61, 0x7A)]),
    ("xdigit", [(0x30, 0x39), (0x41, 0x46), (0x61, 0x66)])]

/-- A named set behind its opening bracket: its name and whether it is negated. -/
def namedSet? (cs : List Char) : Option (Bool × CharSet × List Char) := do
  let (negated, cs) ← match cs with
    | ':' :: '^' :: rest => some (true, rest)
    | ':' :: rest => some (false, rest)
    | _ => none
  let rest ← match cs.dropWhile (· ≠ ':') with
    | ':' :: ']' :: rest => some rest
    | _ => none
  let (_, ranges) ← namedSets.find? (·.1 == String.ofList (cs.takeWhile (· ≠ ':')))
  some (negated, ⟨ranges⟩, rest)

/-- Behind an opening bracket: whether the set is negated, and the hyphens and the closing bracket
that stand for themselves at its front. -/
def openBracket? (o : Options) (cs : List Char) : Option (Bool × List Nested × List Char) :=
  let (negated, cs) := match o.skip cs with
    | '^' :: rest => (true, o.skip rest)
    | cs => (false, cs)
  let (hyphens, rest) := o.span (· == '-') cs
  let parts := hyphens.map fun c => (⟨.ofChars [c], 0⟩ : Nested)
  match rest with
  | [] => none
  | ']' :: more =>
    if parts.isEmpty then
      let rest := o.skip more
      if rest.isEmpty then none else some (negated, [⟨.ofChars [']'], 0⟩], rest)
    else some (negated, parts, rest)
  | rest => some (negated, parts, rest)

def bracketSign? (o : Options) (cs : List Char) : Option (Sign × List Char) :=
  match cs with
  | [] => none
  | '\\' :: rest => escape? o rest
  | c :: rest => some (.char c false, rest)

/-- The number of a character in a set. Without characters beyond plain ones it is a plain one, or
an octet given by its number. -/
def charCode? (o : Options) : Sign → Option Nat
  | .char c octet => if o.unicode || octet || c.toNat < 0x80 then some c.toNat else none
  | _ => none

def bracketPart? (o : Options) (cs : List Char) : Option (CharSet × List Char) := do
  let (first, rest) ← bracketSign? o cs
  match o.skip rest with
  | [] => none
  | '-' :: more =>
    if o.peek more = some ']' || o.peek more = some '-' then single first ('-' :: more)
    else
      let (last, rest) ← bracketSign? o (o.skip more)
      let low ← charCode? o first
      let high ← charCode? o last
      if low ≤ high then some (.range low high, rest) else none
  | rest => single first rest
where
  /-- A sign that is no end of a range. -/
  single (sign : Sign) (rest : List Char) : Option (CharSet × List Char) :=
    match sign with
    | .set s => some (s, rest)
    | .boundary _ => none
    | sign => (charCode? o sign).map fun n => (.single n, rest)

/-- Reads on between brackets: `parts` are those of the current union, last first. Every step takes
at least one character, so `fuel` need not exceed the length of the text. -/
def readBracket (o : Options) : (fuel : Nat) → List Nested → List Open → List Char →
    Option (Nested × List Char)
  | 0, _, _, _ => none
  | fuel + 1, parts, stack, cs =>
    let sign := fun (s : SetSign) rest =>
      let (left, stack) := applySign o (unionOf parts) stack
      readBracket o fuel [] (.sign s left :: stack) rest
    match o.skip cs with
    | [] => none
    | '[' :: rest =>
      let named := if stack.isEmpty then none else namedSet? rest
      match named with
      | some (negated, set, rest) =>
        match o.restrict (o.negate negated set) with
        | some set => readBracket o fuel (⟨set, 0⟩ :: parts) stack rest
        | none => none
      | none =>
        match openBracket? o rest with
        | some (negated, inner, rest) =>
          readBracket o fuel inner (.bracket parts negated :: stack) rest
        | none => none
    | ']' :: rest =>
      match applySign o (unionOf parts) stack with
      | (whole, .bracket outer negated :: stack) =>
        match o.restrict (o.negate negated (o.fold whole.set)) with
        | some set =>
          let closed : Nested := ⟨set.normalize, whole.depth + 1⟩
          if stack.isEmpty then some (closed, rest)
          else readBracket o fuel (closed :: outer) stack rest
        | none => none
      | _ => none
    | '&' :: '&' :: rest => sign .inter rest
    | '-' :: '-' :: rest => sign .diff rest
    | '~' :: '~' :: rest => sign .symmDiff rest
    | cs =>
      match bracketPart? o cs with
      | some (set, rest) => readBracket o fuel (⟨set, 0⟩ :: parts) stack rest
      | none => none

def bracket? (o : Options) (cs : List Char) : Option (Nested × List Char) :=
  readBracket o (cs.length + 1) [] [] cs

end Speedup.Pattern
