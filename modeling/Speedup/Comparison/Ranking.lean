import Speedup.Sample.Stats

/-!
# Ranking

Executables are ranked by geometric mean speedup, then by win rate, then by median speedup, each
of them descending with an undefined number last. Who ties in all three shares a rank, and the
next rank follows without a gap.

In the program: `cmp_desc` (`descending`), `ranking_key`, `cmp_keys` (`Key.order`) and `rank`
(`standings`).
-/

namespace Speedup

structure Ranked where
  rank : Nat
  exe : String
  geoMean : Double
  median : Double
  winRate : Double
  deriving DecidableEq, Repr

namespace Ranked

/-- Larger numbers first, undefined ones last. -/
def descending (a b : Double) : Ordering :=
  match a.isNaN, b.isNaN with
  | true, true => .eq
  | true, false => .gt
  | false, true => .lt
  | false, false => if b.lt a then .lt else if a.lt b then .gt else .eq

/-- What is ranked by, first things first. -/
structure Key where
  geoMean : Double
  winRate : Double
  median : Double
  deriving DecidableEq, Repr

def Key.order (a b : Key) : Ordering :=
  (descending a.geoMean b.geoMean).then <|
    (descending a.winRate b.winRate).then (descending a.median b.median)

def key (r : Ranked) : Key := ⟨r.geoMean, r.winRate, r.median⟩

/-- Numbers rows that are in order; `current` is the rank of the row before, whose key is
`previous`. -/
def number (current : Nat) (previous : Option Key) : List Ranked → List Ranked
  | [] => []
  | r :: rest =>
    let current := if previous.any (Key.order · r.key == .eq) then current else current + 1
    { r with rank := current } :: number current (some r.key) rest

/-- Sorts rows by their keys, keeps the order of rows that tie, and numbers them. -/
def standings (rows : List Ranked) : List Ranked :=
  number 0 none (rows.mergeSort fun a b => a.key.order b.key != .gt)

end Ranked

end Speedup
