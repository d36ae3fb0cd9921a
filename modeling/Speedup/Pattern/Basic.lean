import Speedup.Unicode.Query

/-!
# Patterns and where they match

A pattern describes pieces of text. Places of a text are numbered from zero before its first
character; a pattern leads from a place to all places where a piece that it describes and that
begins there can end. Whether it occurs in a text is whether it leads from any place anywhere.

As only the occurrence is asked for, groups need not be told apart, and which of several pieces
is preferred does not matter.
-/

namespace Speedup

open Unicode

inductive Boundary where
  | textStart
  | textEnd
  /-- The start of a line; lines end with a line feed or, if `crlf`, also with a carriage return. -/
  | lineStart (crlf : Bool)
  | lineEnd (crlf : Bool)
  /-- A word begins or ends. `ascii` restricts words to plain letters and digits. -/
  | word (ascii : Bool)
  | notWord (ascii : Bool)
  | wordStart (ascii : Bool)
  | wordEnd (ascii : Bool)
  | beforeWordHalf (ascii : Bool)
  | afterWordHalf (ascii : Bool)
  deriving DecidableEq, Repr

inductive Pattern where
  | empty
  | chars (set : CharSet)
  | boundary (b : Boundary)
  | sequence (first second : Pattern)
  | either (left right : Pattern)
  /-- At least `least` and at most `most` times; without a limit if that is absent. -/
  | repeated (body : Pattern) (least : Nat) (most : Option Nat)
  deriving Repr

namespace Boundary

def plainWordChars : CharSet := ⟨[(0x30, 0x39), (0x41, 0x5A), (0x5F, 0x5F), (0x61, 0x7A)]⟩

def isWord (ascii : Bool) (c : Option Char) : Bool :=
  c.any fun c => (if ascii then plainWordChars else wordChars).contains c

def holds (before after : Option Char) : Boundary → Bool
  | textStart => before.isNone
  | textEnd => after.isNone
  | lineStart false => before.all (· == '\n')
  | lineEnd false => after.all (· == '\n')
  | lineStart true =>
    before.all fun c => c == '\n' || (c == '\r' && after != some '\n')
  | lineEnd true =>
    after.all fun c => c == '\r' || (c == '\n' && before != some '\r')
  | word ascii => isWord ascii before != isWord ascii after
  | notWord ascii => isWord ascii before == isWord ascii after
  | wordStart ascii => !isWord ascii before && isWord ascii after
  | wordEnd ascii => isWord ascii before && !isWord ascii after
  | beforeWordHalf ascii => !isWord ascii before
  | afterWordHalf ascii => !isWord ascii after

end Boundary

namespace Pattern

/-! ## Places -/

def mergePlaces : List Nat → List Nat → List Nat
  | [], bs => bs
  | as, [] => as
  | a :: as, b :: bs =>
    if a < b then a :: mergePlaces as (b :: bs)
    else if b < a then b :: mergePlaces (a :: as) bs
    else a :: mergePlaces as bs

/-- Takes a step again and again, at most `limit` times, and gathers all places on the way. It
stops as soon as a step leads nowhere new. -/
def gather (step : List Nat → List Nat) : (limit : Nat) → (reached : List Nat) → List Nat → List Nat
  | 0, reached, _ => reached
  | limit + 1, reached, from' =>
    let next := (step from').filter (!reached.contains ·)
    if next.isEmpty then reached else gather step limit (mergePlaces reached next) next

/-- Takes a step a number of times; it stops where there is no place left. -/
def repeatStep (step : List Nat → List Nat) : Nat → List Nat → List Nat
  | 0, places => places
  | count + 1, places => if places.isEmpty then [] else repeatStep step count (step places)

def advance (text : Array Char) : Pattern → List Nat → List Nat
  | empty, places => places
  | chars set, places => (places.filter fun p => text[p]?.any set.contains).map (· + 1)
  | boundary b, places =>
    places.filter fun p => b.holds (if p = 0 then none else text[p - 1]?) text[p]?
  | sequence first second, places => second.advance text (first.advance text places)
  | either left right, places => mergePlaces (left.advance text places) (right.advance text places)
  | repeated body least most, places =>
    let start := repeatStep (body.advance text) least places
    let limit := match most with
      | some most => min (most - least) (text.size + 1)
      | none => text.size + 1
    gather (body.advance text) limit start start

def occursIn (pattern : Pattern) (text : String) : Bool :=
  let cs := text.toList.toArray
  !(pattern.advance cs (List.range (cs.size + 1))).isEmpty

example : occursIn (chars (.single 0x61)) "xay" = true := by decide +kernel
example : occursIn (sequence (boundary .textStart) (chars (.single 0x61))) "xay" = false := by
  decide +kernel

/-! ## Size -/

/-- An estimate of the memory a pattern takes when it is compiled, in octets. -/
def weight : Pattern → Nat
  | empty => 32
  | chars set =>
    if set.ranges.length ≤ 1 && set.isBelow 0x80 then 32
    else 32 + 8 * set.ranges.length * (if set.isBelow 0x80 then 1 else 4)
  | boundary _ => 32
  | sequence first second => first.weight + second.weight
  | either left right => left.weight + right.weight + 64
  | repeated body least most =>
    match most with
    | some most => least * body.weight + (most - least) * (body.weight + 32)
    | none => (least + 1) * body.weight + 64

/-- Patterns above this weight are refused. -/
def weightLimit : Nat := 10 * 1024 * 1024

end Pattern

end Speedup
