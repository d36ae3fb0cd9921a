/-!
# Sets of characters

A set of code points as inclusive ranges. The operations are those of sets; `normalize` brings
ranges into ascending order and joins those that touch, so that complements can be read off the
gaps.
-/

namespace Speedup.Unicode

structure CharSet where
  ranges : List (Nat × Nat)
  deriving DecidableEq, Repr

namespace CharSet

def empty : CharSet := ⟨[]⟩

def range (low high : Nat) : CharSet := ⟨[(low, high)]⟩

def single (n : Nat) : CharSet := range n n

def ofChars (cs : List Char) : CharSet := ⟨cs.map fun c => (c.toNat, c.toNat)⟩

def last : Nat := 0x10FFFF

def all : CharSet := range 0 last

def containsCode (s : CharSet) (n : Nat) : Bool := s.ranges.any fun r => r.1 ≤ n && n ≤ r.2

def contains (s : CharSet) (c : Char) : Bool := s.containsCode c.toNat

def isBelow (s : CharSet) (bound : Nat) : Bool := s.ranges.all fun r => r.2 < bound

/-- Joins a range with those behind it that touch it; the ranges ascend. -/
def joinTouching (low high : Nat) : List (Nat × Nat) → List (Nat × Nat)
  | [] => [(low, high)]
  | (l, h) :: rest =>
    if l ≤ high + 1 then joinTouching low (max high h) rest
    else (low, high) :: joinTouching l h rest

def normalize (s : CharSet) : CharSet :=
  match s.ranges.mergeSort fun a b => a.1 ≤ b.1 with
  | [] => empty
  | (l, h) :: rest => ⟨joinTouching l h rest⟩

/-- The gaps between ascending ranges from `low` to `high`. -/
def gaps (high : Nat) : (low : Nat) → List (Nat × Nat) → List (Nat × Nat)
  | low, [] => if low ≤ high then [(low, high)] else []
  | low, (l, h) :: rest => if low < l then (low, l - 1) :: gaps high (h + 1) rest
    else gaps high (h + 1) rest

/-- The characters up to `high` that are not in the set. -/
def complement (high : Nat) (s : CharSet) : CharSet := ⟨gaps high 0 s.normalize.ranges⟩

def union (s t : CharSet) : CharSet := ⟨s.ranges ++ t.ranges⟩

def inter (s t : CharSet) : CharSet :=
  complement last (union (complement last s) (complement last t))

def diff (s t : CharSet) : CharSet := inter s (complement last t)

def symmDiff (s t : CharSet) : CharSet := union (diff s t) (diff t s)

end CharSet

end Speedup.Unicode
