import Speedup.Pattern.Basic
import Speedup.Text.Blank
import Speedup.Text.Digits

/-!
# Reading the parts of a pattern

The options that decide how a pattern is read, blanks and comments where they are passed over,
and what stands behind a backslash.
-/

namespace Speedup.Pattern

open Unicode

structure Options where
  ignoreCase : Bool
  multiLine : Bool
  dotAll : Bool
  crlf : Bool
  unicode : Bool
  /-- Whether blanks and comments are passed over. -/
  spaced : Bool
  deriving DecidableEq, Repr

namespace Options

def initial : Options := ⟨false, false, false, false, true, false⟩

/-- Turns the option with the given letter on or off; there are no others. -/
def set? (o : Options) (letter : Char) (on : Bool) : Option Options :=
  match letter with
  | 'i' => some { o with ignoreCase := on }
  | 'm' => some { o with multiLine := on }
  | 's' => some { o with dotAll := on }
  | 'R' => some { o with crlf := on }
  | 'u' => some { o with unicode := on }
  | 'x' => some { o with spaced := on }
  | 'U' => some o
  | _ => none

def lastChar (o : Options) : Nat := if o.unicode then CharSet.last else 0xFF

/-- Without characters beyond plain ones a set must not reach beyond them. -/
def restrict (o : Options) (s : CharSet) : Option CharSet :=
  if o.unicode || s.isBelow 0x80 then some s else none

def fold (o : Options) (s : CharSet) : CharSet :=
  if o.ignoreCase then (if o.unicode then foldCase s else foldPlainCase s) else s

def negate (o : Options) (negated : Bool) (s : CharSet) : CharSet :=
  if negated then s.complement o.lastChar else s

end Options

/-! ## Blanks -/

def skipBlanks : (comment : Bool) → List Char → List Char
  | _, [] => []
  | true, c :: rest => skipBlanks (c != '\n') rest
  | false, c :: rest =>
    if c = '#' then skipBlanks true rest
    else if Text.isBlank c then skipBlanks false rest
    else c :: rest

def Options.skip (o : Options) (cs : List Char) : List Char :=
  if o.spaced then skipBlanks false cs else cs

/-- The next character that counts. A comment sign counts as a blank here, and only once. -/
def Options.peek (o : Options) (cs : List Char) : Option Char :=
  if o.spaced then
    match cs.dropWhile Text.isBlank with
    | '#' :: more => ((more.dropWhile Text.isBlank).head?) <|> cs.head?
    | c :: _ => some c
    | [] => cs.head?
  else cs.head?

/-- The characters at the front that pass a test, with blanks passed over behind each of them.
`fuel` is at least the length of the text. -/
def Options.takeSpaced (o : Options) (p : Char → Bool) : (fuel : Nat) → List Char →
    List Char × List Char
  | 0, cs => ([], cs)
  | _, [] => ([], [])
  | fuel + 1, c :: rest =>
    if p c then
      let (taken, rest) := takeSpaced o p fuel (o.skip rest)
      (c :: taken, rest)
    else ([], c :: rest)

def Options.span (o : Options) (p : Char → Bool) (cs : List Char) : List Char × List Char :=
  o.takeSpaced p cs.length cs

/-! ## Escapes -/

inductive Sign where
  /-- A character; `octet` tells whether it was given as an octet of two digits. -/
  | char (c : Char) (octet : Bool)
  | set (s : CharSet)
  | boundary (b : Boundary)

def isMeta (c : Char) : Bool := c ∈ "\\.+*?()|[]\x7b\x7d^$#&-~".toList

def isEscapable (c : Char) : Bool :=
  isMeta c || (c.toNat < 0x80 && !c.isAlphanum && c ≠ '<' && c ≠ '>')

def isHexDigit (c : Char) : Bool :=
  c.isDigit || ('a' ≤ c && c ≤ 'f') || ('A' ≤ c && c ≤ 'F')

def charOfHex? (ds : List Char) : Option Char :=
  let n := ds.foldl (fun n c => 16 * n + hexValue c) 0
  if n < 0xD800 || (0xDFFF < n && n ≤ CharSet.last) then some (Char.ofNat n) else none

/-- As many hexadecimal digits as given, with blanks passed over behind each. -/
def hexDigits? (o : Options) : Nat → List Char → Option (List Char × List Char)
  | 0, cs => some ([], cs)
  | n + 1, c :: rest =>
    if isHexDigit c then (hexDigits? o n (o.skip rest)).map fun (ds, rest) => (c :: ds, rest)
    else none
  | _ + 1, [] => none

/-- A character by its number, behind the letter that gives the number of digits. -/
def hexEscape? (o : Options) (digits : Nat) (cs : List Char) : Option (Sign × List Char) :=
  match o.skip cs with
  | '\x7b' :: rest =>
    match o.span (· ≠ '\x7d') (o.skip rest) with
    | (ds, _ :: rest) =>
      if ds.isEmpty || !ds.all isHexDigit then none
      else (charOfHex? ds).map fun c => (.char c false, o.skip rest)
    | (_, []) => none
  | cs => do
    let (ds, rest) ← hexDigits? o digits cs
    some (.char (← charOfHex? ds) (digits == 2), rest)

def splitAt? (mark : List Char) : List Char → Option (List Char × List Char)
  | [] => none
  | c :: rest =>
    if mark.isPrefixOf (c :: rest) then some ([], (c :: rest).drop mark.length)
    else (splitAt? mark rest).map fun (before, behind) => (c :: before, behind)

def propertyQuery? (query : List Char) : Option (Bool × CharSet) :=
  let valued := fun turned (name, value) =>
    (propertyWithValue? (String.ofList name) (String.ofList value)).map fun s => (turned, s)
  match splitAt? ['!', '='] query, splitAt? [':'] query, splitAt? ['='] query with
  | some q, _, _ => valued true q
  | _, some q, _ => valued false q
  | _, _, some q => valued false q
  | none, none, none => (propertyNamed? (String.ofList query)).map fun s => (false, s)

def propertyEscape? (o : Options) (negated : Bool) (cs : List Char) :
    Option (Sign × List Char) := do
  let (query, rest) ← match o.skip cs with
    | '\x7b' :: rest =>
      match o.span (· ≠ '\x7d') (o.skip rest) with
      | (query, _ :: rest) => some (query, rest)
      | (_, []) => none
    | '\\' :: _ => none
    | c :: rest => some ([c], o.skip rest)
    | [] => none
  let (turned, s) ← propertyQuery? query
  if o.unicode then some (.set (o.negate (negated != turned) (o.fold s)), rest) else none

def classOfLetter (o : Options) (letter : Char) : CharSet :=
  match letter with
  | 'd' => if o.unicode then digits else .range 0x30 0x39
  | 's' => if o.unicode then spaces else ⟨[(0x09, 0x0D), (0x20, 0x20)]⟩
  | _ => if o.unicode then wordChars else Boundary.plainWordChars

/-- A special word boundary between braces; none if it cannot be one, and the inner `none` if it
is begun like one but is not. -/
def wordBoundary? (o : Options) (cs : List Char) :
    Option (Option (Boundary × List Char)) :=
  let isNameChar := fun c : Char => c.isAlpha || c == '-'
  match cs with
  | '\x7b' :: rest =>
    match o.skip rest with
    | [] => some none
    | c :: rest =>
      if isNameChar c then
        match o.span isNameChar (c :: rest) with
        | (name, '\x7d' :: rest) =>
          let ascii := !o.unicode
          some <| match String.ofList name with
            | "start" => some (.wordStart ascii, rest)
            | "end" => some (.wordEnd ascii, rest)
            | "start-half" => some (.beforeWordHalf ascii, rest)
            | "end-half" => some (.afterWordHalf ascii, rest)
            | _ => none
        | _ => some none
      else none
  | _ => none

def escape? (o : Options) (cs : List Char) : Option (Sign × List Char) :=
  match cs with
  | [] => none
  | c :: rest =>
    let ascii := !o.unicode
    if c.isDigit then none
    else if isEscapable c then some (.char c false, rest)
    else
      match c with
      | 'x' => hexEscape? o 2 rest
      | 'u' => hexEscape? o 4 rest
      | 'U' => hexEscape? o 8 rest
      | 'p' => propertyEscape? o false rest
      | 'P' => propertyEscape? o true rest
      | 'a' => some (.char '\x07' false, rest)
      | 'f' => some (.char '\x0c' false, rest)
      | 't' => some (.char '\t' false, rest)
      | 'n' => some (.char '\n' false, rest)
      | 'r' => some (.char '\r' false, rest)
      | 'v' => some (.char '\x0b' false, rest)
      | 'A' => some (.boundary .textStart, rest)
      | 'z' => some (.boundary .textEnd, rest)
      | 'B' => some (.boundary (.notWord ascii), rest)
      | '<' => some (.boundary (.wordStart ascii), rest)
      | '>' => some (.boundary (.wordEnd ascii), rest)
      | 'b' =>
        match wordBoundary? o rest with
        | none => some (.boundary (.word ascii), rest)
        | some special => special.map fun (b, rest) => (.boundary b, rest)
      | c =>
        if c.toLower ∈ ['d', 's', 'w'] then
          (o.restrict (o.negate c.isUpper (classOfLetter o c.toLower))).map fun s => (.set s, rest)
        else none

end Speedup.Pattern
