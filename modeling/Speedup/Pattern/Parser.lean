import Speedup.Pattern.Bracket
import Speedup.Pattern.Language

/-!
# Reading patterns

A pattern is read from left to right with a stack of open groups. Options hold from where they are
set to the end of their group. Not every text is a pattern: groups and brackets have to be closed,
repetitions need something to repeat, names have to be known, and neither nesting nor the size of
the compiled pattern may grow without bound.

This is the language of the program that runs (`PatternLanguage.standard`). It has no properties of
ages and of boundaries between characters, words and sentences.
-/

namespace Speedup.Pattern

open Unicode

/-- A part of a sequence: a pattern with the depth of its nesting, or a setting of options, which
cannot be repeated. -/
inductive Part where
  | options
  | pattern (p : Pattern) (depth : Nat)

def Part.value : Part → Pattern
  | options => empty
  | pattern p _ => p

def Part.depth : Part → Nat
  | options => 0
  | pattern _ d => d

/-- The parts read since the group or alternative began (last first), and the finished
alternatives before them (last first). -/
structure Branches where
  parts : List Part
  finished : List Part

/-- An open group: what is around it, and the options to return to. -/
structure OpenGroup where
  outer : Branches
  options : Options

structure Reader where
  options : Options
  branches : Branches
  groups : List OpenGroup
  names : List (List Char)

namespace Branches

def start : Branches := ⟨[], []⟩

/-- The sequence of the parts. Two parts or more are a level of nesting. -/
def sequenceOf (parts : List Part) : Part :=
  match parts with
  | [] => .pattern empty 0
  | [part] => .pattern part.value part.depth
  | parts =>
    .pattern (parts.foldl (fun rest part => sequence part.value rest) empty)
      ((parts.map Part.depth).foldl max 0 + 1)

def endAlternative (b : Branches) : Branches := ⟨[], sequenceOf b.parts :: b.finished⟩

/-- The pattern of all alternatives. Two or more are a level of nesting. -/
def whole (b : Branches) : Part :=
  match (b.endAlternative).finished with
  | [part] => part
  | parts =>
    .pattern (parts.tail.foldl (fun rest part => Pattern.either part.value rest)
      ((parts.head?.map Part.value).getD empty))
      ((parts.map Part.depth).foldl max 0 + 1)

def push (b : Branches) (p : Part) : Branches := { b with parts := p :: b.parts }

end Branches

namespace Reader

def push (r : Reader) (p : Pattern) (depth : Nat) : Reader :=
  { r with branches := r.branches.push (.pattern p depth) }

/-! ## Groups -/

def isNameChar (first : Bool) (c : Char) : Bool :=
  if first then c == '_' || letters.contains c
  else c ∈ ['_', '.', '[', ']'] || alphanumerics.contains c

def groupName? (cs : List Char) : Option (List Char × List Char) :=
  match cs.takeWhile (· ≠ '>'), cs.dropWhile (· ≠ '>') with
  | c :: name, _ :: rest =>
    if isNameChar true c && name.all (isNameChar false) then some (c :: name, rest) else none
  | _, _ => none

/-- Letters of options up to a colon or closing parenthesis: the options set by them, whether
there were any, and the text from that sign on. A hyphen may occur once and not at the end, and no
letter twice. -/
def optionLetters? : Options → (seen : List Char) → (on : Bool) → List Char →
    Option (Options × Bool × List Char)
  | _, _, _, [] => none
  | o, seen, on, c :: rest =>
    if c = ':' || c = ')' then
      if seen.head? = some '-' then none else some (o, !seen.isEmpty, c :: rest)
    else if seen.contains c then none
    else if c = '-' then optionLetters? o (c :: seen) false rest
    else
      match o.set? c on with
      | some o => optionLetters? o (c :: seen) on rest
      | none => none

def openGroup (r : Reader) (o : Options) : Reader :=
  { r with
    options := o
    branches := .start
    groups := ⟨r.branches, r.options⟩ :: r.groups }

def openNamed? (r : Reader) (cs : List Char) : Option (Reader × List Char) :=
  match groupName? cs with
  | some (name, rest) =>
    if r.names.contains name then none
    else some ({ r.openGroup r.options with names := name :: r.names }, rest)
  | none => none

/-- Behind an opening parenthesis. Looking ahead or behind is not possible. -/
def group? (r : Reader) (cs : List Char) : Option (Reader × List Char) :=
  match r.options.skip cs with
  | '?' :: '=' :: _ => none
  | '?' :: '!' :: _ => none
  | '?' :: '<' :: '=' :: _ => none
  | '?' :: '<' :: '!' :: _ => none
  | '?' :: 'P' :: '<' :: rest => r.openNamed? rest
  | '?' :: '<' :: rest => r.openNamed? rest
  | '?' :: rest =>
    match optionLetters? r.options [] true rest with
    | some (o, _, ':' :: rest) => some (r.openGroup o, rest)
    | some (o, true, _ :: rest) =>
      some ({ r with options := o, branches := r.branches.push .options }, rest)
    | _ => none
  | cs => some (r.openGroup r.options, cs)

def closeGroup? (r : Reader) : Option Reader :=
  match r.groups with
  | [] => none
  | g :: groups =>
    let whole := r.branches.whole
    some { r with
      options := g.options
      branches := g.outer.push (.pattern whole.value (whole.depth + 1))
      groups }

/-! ## Repetitions -/

def repeat? (r : Reader) (least : Nat) (most : Option Nat) : Option Reader :=
  match r.branches.parts with
  | .pattern p depth :: parts =>
    some { r with
      branches := { r.branches with
        parts := .pattern (repeated p least most) (depth + 1) :: parts } }
  | _ => none

/-- A text without the sign that a repetition takes as little as possible. -/
def skipLazy (cs : List Char) : List Char :=
  match cs with
  | '?' :: rest => rest
  | cs => cs

/-- A whole number of 32 bits with blanks around it. The outer `none` stands for a number that is
too large, the inner one for no digits. -/
def count? (o : Options) (cs : List Char) : Option (Option Nat × List Char) :=
  let (ds, rest) := o.span Char.isDigit (cs.dropWhile Text.isBlank)
  let (_, rest) := o.span Text.isBlank rest
  if ds.isEmpty then some (none, rest)
  else if Text.digitsValue 0 ds < UInt32.size then some (some (Text.digitsValue 0 ds), rest)
  else none

def counted? (r : Reader) (cs : List Char) : Option (Reader × List Char) := do
  let o := r.options
  let (least, rest) ← count? o (o.skip cs)
  let least ← least
  let (most, rest) ← match rest with
    | ',' :: rest =>
      match o.skip rest with
      | '\x7d' :: rest => some (none, '\x7d' :: rest)
      | rest => do
        let (most, rest) ← count? o rest
        some (some (← most), rest)
    | rest => some (some least, rest)
  match rest with
  | '\x7d' :: rest =>
    if most.all (least ≤ ·) then
      (r.repeat? least most).map fun r => (r, skipLazy (o.skip rest))
    else none
  | _ => none

/-! ## Signs -/

def ofSign? (o : Options) : Sign → Option Pattern
  | .boundary b => some (.boundary b)
  | .set s => some (.chars s)
  | .char c octet =>
    if !o.unicode && octet && 0x80 ≤ c.toNat then none
    else if !o.unicode && 0x80 ≤ c.toNat then some (.chars (.single c.toNat))
    else some (.chars (o.fold (.single c.toNat)))

/-- Any character, but for line ends unless they are included. -/
def anyChar? (o : Options) : Option Pattern :=
  if !o.unicode then none
  else if o.dotAll then some (.chars .all)
  else
    let ends := if o.crlf then ['\n', '\r'] else ['\n']
    some (.chars ((CharSet.ofChars ends).complement CharSet.last))

/-- Reads one part of a pattern; the text is not empty and begins with no blank that is passed
over. -/
def step? (r : Reader) (c : Char) (rest : List Char) : Option (Reader × List Char) :=
  let o := r.options
  match c with
  | '(' => r.group? rest
  | ')' => r.closeGroup?.map fun r => (r, rest)
  | '|' => some ({ r with branches := r.branches.endAlternative }, rest)
  | '[' => (bracket? o (c :: rest)).map fun (s, rest) => (r.push (.chars s.set) s.depth, rest)
  | '?' => (r.repeat? 0 (some 1)).map fun r => (r, skipLazy rest)
  | '*' => (r.repeat? 0 none).map fun r => (r, skipLazy rest)
  | '+' => (r.repeat? 1 none).map fun r => (r, skipLazy rest)
  | '\x7b' => if r.branches.parts.isEmpty then none else r.counted? rest
  | '.' => (anyChar? o).map fun p => (r.push p 0, rest)
  | '^' => some (r.push (.boundary (if o.multiLine then .lineStart o.crlf else .textStart)) 0, rest)
  | '$' => some (r.push (.boundary (if o.multiLine then .lineEnd o.crlf else .textEnd)) 0, rest)
  | '\\' => do
    let (sign, rest) ← escape? o rest
    some (r.push (← ofSign? o sign) 0, rest)
  | c => (ofSign? o (.char c false)).map fun p => (r.push p 0, rest)

/-- Reads to the end. Every step takes at least one character, so `fuel` need not exceed the length
of the text. -/
def run (r : Reader) : (fuel : Nat) → List Char → Option Reader
  | 0, _ => none
  | fuel + 1, cs =>
    match r.options.skip cs with
    | [] => some r
    | c :: rest =>
      match r.step? c rest with
      | some (r, rest) => run r fuel rest
      | none => none

end Reader

def depthLimit : Nat := 250

def parse? (text : String) : Option Pattern := do
  let cs := text.toList
  let r ← Reader.run ⟨.initial, .start, [], []⟩ (cs.length + 1) cs
  let whole := r.branches.whole
  if r.groups.isEmpty && whole.depth ≤ depthLimit && whole.value.weight ≤ weightLimit then
    some whole.value
  else none

end Speedup.Pattern

namespace Speedup

def PatternLanguage.standard : PatternLanguage where
  compile text :=
    match Pattern.parse? text with
    | some pattern => .ok pattern.occursIn
    | none => .error ("regex parse error:\n    " ++ text ++ "\nerror: this is no pattern")

end Speedup
