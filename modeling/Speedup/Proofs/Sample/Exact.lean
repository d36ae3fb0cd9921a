import Mathlib.Algebra.BigOperators.Group.List.Basic
import Mathlib.Algebra.Order.BigOperators.Group.List
import Mathlib.Algebra.Order.Ring.Rat
import Mathlib.Tactic.FieldSimp
import Mathlib.Tactic.Linarith
import Mathlib.Tactic.Ring
import Speedup.Proofs.Sample.Extremes
import Speedup.Proofs.Sample.Middle

/-!
# Statistics in exact arithmetic

With rational numbers nothing is rounded, and the statistics of a sample are what they are named.
Mean and variance are corrected number by number; the invariant of this (`Running.Holds`) couples
both: the spread of the numbers around any centre is the sum of squares so far, and beyond that the
distance of the centre from the mean, once for every number. The median has at most half of the
numbers on either side, and so it is between the extremes (`summary_describes`).

What is computed of doubles is the same in another kind of number (`Stats.ofValues_eq`).
-/

namespace Speedup

namespace Sample

/-- Rational numbers: nothing is rounded, and every number is defined. -/
instance : Measurable ℚ where
  less x y := decide (x < y)
  sortLE x y := decide (x ≤ y)
  isUndefined _ := false

variable {xs ys : List ℚ} {x m c : ℚ}

instance : SortsLinearly ℚ where
  total x y := by simpa [Measurable.sortLE] using le_total x y
  trans x y z := by simpa [Measurable.sortLE] using le_trans
  antisymm x y := by simpa [Measurable.sortLE] using le_antisymm

/-! ## Mean and variance -/

/-- The sum of the squared distances from a centre. -/
def spread (c : ℚ) (xs : List ℚ) : ℚ := (xs.map fun x => (x - c) ^ 2).sum

@[simp] theorem spread_concat (c : ℚ) (xs : List ℚ) (x : ℚ) :
    spread c (xs ++ [x]) = spread c xs + (x - c) ^ 2 := by
  simp [spread]

theorem spread_perm (h : xs.Perm ys) (c : ℚ) : spread c xs = spread c ys := (h.map _).sum_eq

namespace Running

variable {r : Running ℚ}

/-- What the estimators say of the numbers taken so far. -/
structure Holds (r : Running ℚ) (xs : List ℚ) : Prop where
  count : r.count = xs.length
  total : r.count * r.mean = xs.sum
  spread : ∀ c, spread c xs = r.squares + r.count * (r.mean - c) ^ 2

theorem add_eq (r : Running ℚ) (x : ℚ) : r.add x =
    ⟨r.count + 1, r.mean + (x - r.mean) / (r.count + 1),
      r.squares + ((x - r.mean) / (r.count + 1)) ^ 2 * (r.count + 1) * r.count⟩ := by
  have count : ((r.count + 1 : Nat) : ℚ) = r.count + 1 := Nat.cast_succ r.count
  have one : ((1 : Nat) : ℚ) = 1 := Nat.cast_one
  show (⟨r.count + 1, r.mean + (x - r.mean) / ((r.count + 1 : Nat) : ℚ),
    r.squares + (x - r.mean) / ((r.count + 1 : Nat) : ℚ) *
      ((x - r.mean) / ((r.count + 1 : Nat) : ℚ)) * ((r.count + 1 : Nat) : ℚ) *
      (((r.count + 1 : Nat) : ℚ) - ((1 : Nat) : ℚ))⟩ : Running ℚ) = _
  rw [count, one, add_sub_cancel_right, sq]

theorem holds_start : start.Holds [] where
  count := rfl
  total := zero_mul _
  spread c := by
    show (0 : ℚ) = 0 + ((0 : Nat) : ℚ) * _
    rw [Nat.cast_zero, zero_mul, add_zero]

theorem Holds.add (h : r.Holds xs) (x : ℚ) : (r.add x).Holds (xs ++ [x]) := by
  have some_number : (r.count : ℚ) + 1 ≠ 0 := by positivity
  rw [add_eq]
  refine ⟨?_, ?_, fun c => ?_⟩
  · rw [List.length_append, h.count]
    rfl
  · rw [List.sum_append, List.sum_singleton, ← h.total]
    push_cast
    field_simp
    ring
  · rw [spread_concat, h.spread]
    push_cast
    field_simp
    ring

end Running

/-- The invariant of the pass over a whole sample. -/
theorem holds_running (xs : List ℚ) : (running xs).Holds xs := by
  induction xs using List.reverseRecOn with
  | nil => exact Running.holds_start
  | append_singleton xs x ih =>
      rw [running_concat]
      exact ih.add x

theorem length_pos (some_number : xs ≠ []) : (0 : ℚ) < xs.length := by
  exact_mod_cast List.length_pos_iff.mpr some_number

theorem mean_running (some_number : xs ≠ []) : (running xs).mean = xs.sum / xs.length := by
  have holds := holds_running xs
  rw [eq_div_iff (length_pos some_number).ne', ← holds.total, ← holds.count, mul_comm]

theorem squares_running (some_number : xs ≠ []) :
    (running xs).squares = spread (xs.sum / xs.length) xs := by
  rw [(holds_running xs).spread, mean_running some_number, sub_self]
  ring

theorem mean_eq (some_number : xs ≠ []) : mean xs = some (xs.sum / xs.length) := by
  rw [mean_of_ne_nil some_number, mean_running some_number]

theorem variance_eq (xs : List ℚ) : variance xs =
    if xs.length < 2 then none else some (spread (xs.sum / xs.length) xs / (xs.length - 1)) := by
  unfold variance
  split
  · rfl
  next several =>
    have some_number : xs ≠ [] := by
      rintro rfl
      exact several two_pos
    rw [squares_running some_number]
    show some (spread _ xs / ((xs.length : ℚ) - ((1 : Nat) : ℚ))) = _
    rw [Nat.cast_one]

theorem le_mean (some_number : xs ≠ []) (h : ∀ x ∈ xs, c ≤ x) : c ≤ xs.sum / xs.length := by
  have sum := List.card_nsmul_le_sum xs c h
  rwa [nsmul_eq_mul, mul_comm, ← le_div_iff₀ (length_pos some_number)] at sum

theorem mean_le (some_number : xs ≠ []) (h : ∀ x ∈ xs, x ≤ c) : xs.sum / xs.length ≤ c := by
  have sum := List.sum_le_card_nsmul xs c h
  rwa [nsmul_eq_mul, mul_comm, ← div_le_iff₀ (length_pos some_number)] at sum

/-! ## Extremes -/

theorem readsAs_rat : ReadsAs (id : ℚ → ℚ) := fun _ _ _ _ => decide_eq_true_iff

theorem defined_eq (xs : List ℚ) : defined xs = xs := List.filter_eq_self.mpr fun _ _ => rfl

theorem least_eq_some_iff_le : least xs = some m ↔ m ∈ xs ∧ ∀ x ∈ xs, m ≤ x := by
  rw [least_eq_some_iff readsAs_rat, defined_eq, firstLowest_iff Function.injective_id]
  rfl

theorem greatest_eq_some_iff_le : greatest xs = some m ↔ m ∈ xs ∧ ∀ x ∈ xs, x ≤ m := by
  have injective : Function.Injective fun x : ℚ => OrderDual.toDual (id x) :=
    OrderDual.toDual.injective
  rw [greatest_eq_some_iff readsAs_rat, defined_eq, firstLowest_iff injective]
  rfl

theorem exists_least (some_number : xs ≠ []) : ∃ m, least xs = some m := by
  rw [← Option.ne_none_iff_exists', ne_eq, least_eq_none_iff, ← defined_eq_nil_iff, defined_eq]
  exact some_number

theorem exists_greatest (some_number : xs ≠ []) : ∃ m, greatest xs = some m := by
  rw [← Option.ne_none_iff_exists', ne_eq, greatest_eq_none_iff, ← defined_eq_nil_iff, defined_eq]
  exact some_number

/-! ## The median -/

/-- At most half of the numbers are below a number, and at most half are above it. -/
structure Halves (m : ℚ) (xs : List ℚ) : Prop where
  below : 2 * xs.countP (· < m) ≤ xs.length
  above : 2 * xs.countP (m < ·) ≤ xs.length

/-- The median by its meaning: the midpoint of all numbers that have at most half of the sample on
either side. -/
def IsMedian (m : ℚ) (xs : List ℚ) : Prop :=
  ∃ low ∈ xs, ∃ high ∈ xs, low ≤ high ∧ m = (low + high) / 2 ∧
    ∀ y, Halves y xs ↔ low ≤ y ∧ y ≤ high

theorem countP_lt_add_countP_le (y : ℚ) (xs : List ℚ) :
    xs.countP (· < y) + xs.countP (y ≤ ·) = xs.length := by
  rw [xs.length_eq_countP_add_countP (· < y)]
  simp

theorem countP_le_add_countP_lt (y : ℚ) (xs : List ℚ) :
    xs.countP (· ≤ y) + xs.countP (y < ·) = xs.length := by
  rw [xs.length_eq_countP_add_countP (· ≤ y)]
  simp

/-- The numbers that halve a sample are those between the two in its middle, which are the same one
where the sample is odd. -/
theorem Middle.halves_iff {low high : ℚ} (middle : Middle low high xs) (y : ℚ) :
    Halves y xs ↔ low ≤ y ∧ y ≤ high := by
  have below_low : xs.length ≤ 2 * xs.countP (· ≤ low) := middle.below_low
  have above_low : xs.length < 2 * xs.countP (low ≤ ·) := middle.above_low
  have below_high : xs.length < 2 * xs.countP (· ≤ high) := middle.below_high
  have above_high : xs.length ≤ 2 * xs.countP (high ≤ ·) := middle.above_high
  have from_y := countP_lt_add_countP_le y xs
  have up_to_y := countP_le_add_countP_lt y xs
  constructor
  · rintro ⟨below, above⟩
    constructor
    · apply of_decide_eq_true
      apply sortLE_of_length_lt xs
      show xs.length < xs.countP (· ≤ y) + xs.countP (low ≤ ·)
      omega
    · apply of_decide_eq_true
      apply sortLE_of_length_lt xs
      show xs.length < xs.countP (· ≤ high) + xs.countP (y ≤ ·)
      omega
  · rintro ⟨low_le, le_high⟩
    have fewer_below : xs.countP (· ≤ low) ≤ xs.countP (· ≤ y) := by
      apply List.countP_mono_left
      intro x _ hx
      exact decide_eq_true ((of_decide_eq_true hx).trans low_le)
    have fewer_above : xs.countP (high ≤ ·) ≤ xs.countP (y ≤ ·) := by
      apply List.countP_mono_left
      intro x _ hx
      exact decide_eq_true (le_high.trans (of_decide_eq_true hx))
    constructor
    · omega
    · omega

theorem exists_median (some_number : xs ≠ []) : ∃ m, median xs = some m ∧ IsMedian m xs := by
  obtain ⟨m, found, middle⟩ := exists_isMiddle some_number
  refine ⟨m, found, ?_⟩
  cases middle with
  | odd odd mem middle =>
      exact ⟨m, mem, m, mem, le_rfl, (add_self_div_two m).symm, middle.halves_iff⟩
  | even even places middle =>
      obtain ⟨others, perm⟩ := places
      refine ⟨_, ?_, _, ?_, of_decide_eq_true middle.ordered, rfl, middle.halves_iff⟩
      · simp [perm.mem_iff]
      · simp [perm.mem_iff]

theorem IsMedian.le_of_le (median : IsMedian m xs) (h : ∀ x ∈ xs, c ≤ x) : c ≤ m := by
  obtain ⟨low, hl, high, hh, _, rfl, _⟩ := median
  linarith [h low hl, h high hh]

theorem IsMedian.ge_of_ge (median : IsMedian m xs) (h : ∀ x ∈ xs, x ≤ c) : m ≤ c := by
  obtain ⟨low, hl, high, hh, _, rfl, _⟩ := median
  linarith [h low hl, h high hh]

/-! ## All statistics together -/

section Summary

variable {α : Type} [Measurable α]

/-- The statistics of a sample of any numbers, where what is not defined is missing. -/
structure Summary (α : Type) where
  mean : α
  median : α
  variance : Option α
  least : Option α
  greatest : Option α
  n : Nat
  deriving DecidableEq

/-- All statistics of a sample; a sample without numbers has none. -/
def summary (xs : List α) : Option (Summary α) := do
  let mean ← mean xs
  let median ← median xs
  return ⟨mean, median, variance xs, least xs, greatest xs, xs.length⟩

end Summary

/-- What statistics that are what they are named say of a sample. -/
structure Summary.Describes (s : Summary ℚ) (xs : List ℚ) : Prop where
  n : s.n = xs.length
  mean : s.mean = xs.sum / xs.length
  variance : s.variance = if xs.length < 2 then none
    else some (spread s.mean xs / (xs.length - 1))
  least : ∃ low ∈ xs, s.least = some low ∧ ∀ x ∈ xs, low ≤ x
  greatest : ∃ high ∈ xs, s.greatest = some high ∧ ∀ x ∈ xs, x ≤ high
  median : IsMedian s.median xs
  between : ∀ low ∈ s.least, ∀ high ∈ s.greatest,
    (low ≤ s.median ∧ s.median ≤ high) ∧ low ≤ s.mean ∧ s.mean ≤ high

theorem exists_describes (some_number : xs ≠ []) : ∃ s, summary xs = some s ∧ s.Describes xs := by
  obtain ⟨median, found, is_median⟩ := exists_median some_number
  obtain ⟨low, hl⟩ := exists_least some_number
  obtain ⟨high, hh⟩ := exists_greatest some_number
  obtain ⟨low_mem, lowest⟩ := least_eq_some_iff_le.mp hl
  obtain ⟨high_mem, highest⟩ := greatest_eq_some_iff_le.mp hh
  refine ⟨⟨xs.sum / xs.length, median, variance xs, some low, some high, xs.length⟩, ?_, rfl, rfl,
    variance_eq xs, ⟨low, low_mem, rfl, lowest⟩, ⟨high, high_mem, rfl, highest⟩, is_median, ?_⟩
  · rw [summary, mean_eq some_number, found, hl, hh]
    rfl
  · rintro _ ⟨⟩ _ ⟨⟩
    exact ⟨⟨is_median.le_of_le lowest, is_median.ge_of_ge highest⟩,
      le_mean some_number lowest, mean_le some_number highest⟩

/-- The order of the numbers does not matter. -/
theorem summary_perm (h : xs.Perm ys) : summary xs = summary ys := by
  by_cases some_number : xs = []
  · subst some_number
    rw [List.nil_perm.mp h]
  have some_number' : ys ≠ [] := fun none => some_number (List.perm_nil.mp (none ▸ h))
  have variance : variance xs = variance ys := by
    rw [variance_eq, variance_eq, h.length_eq, h.sum_eq, spread_perm h]
  have least : least xs = least ys := by
    ext m
    rw [least_eq_some_iff_le, least_eq_some_iff_le]
    simp only [h.mem_iff]
  have greatest : greatest xs = greatest ys := by
    ext m
    rw [greatest_eq_some_iff_le, greatest_eq_some_iff_le]
    simp only [h.mem_iff]
  rw [summary, summary, mean_eq some_number, mean_eq some_number', median_perm h, variance, least,
    greatest, h.length_eq, h.sum_eq]

end Sample

namespace Stats

/-- Statistics of doubles as they are shown: the deviation is the root of the variance, and what is
not defined is a NaN or an infinity. -/
def ofSummary (s : Sample.Summary Double) : Stats where
  mean := s.mean
  median := s.median
  std := (s.variance.map Double.sqrt).getD undefined
  min := s.least.getD (Double.infinity false)
  max := s.greatest.getD (Double.infinity true)
  n := s.n

/-- The statistics of doubles are computed the same way. -/
theorem ofValues_eq (values : List Double) :
    ofValues values = (Sample.summary values).map ofSummary := by
  unfold ofValues Sample.summary
  cases Sample.mean values <;> cases Sample.median values <;> rfl

end Stats

namespace Sample

variable {xs : List ℚ}

/-- What is computed of a sample, read over the rational numbers, are the statistics that it is
named for, in whatever order the numbers come. The same computation gives the statistics of
doubles. -/
theorem summary_describes (some_number : xs ≠ []) :
    (∃ s, summary xs = some s ∧ s.Describes xs ∧ ∀ ys, ys.Perm xs → summary ys = some s) ∧
      ∀ values, Stats.ofValues values = (summary values).map Stats.ofSummary := by
  obtain ⟨s, found, describes⟩ := exists_describes some_number
  refine ⟨⟨s, found, describes, fun ys perm => ?_⟩, Stats.ofValues_eq⟩
  rw [summary_perm perm, found]

/-- An even sample that is not in order. -/
theorem summary_describes_four :
    let numbers : List ℚ := [2, 6, 1, 3]
    let s : Summary ℚ := ⟨3, 5 / 2, some (14 / 3), some 1, some 6, 4⟩
    numbers ≠ [] ∧ summary numbers = some s ∧ s.Describes numbers ∧
      summary [(1 : ℚ), 2, 3, 6] = some s := by
  intro numbers s
  have sorted : sorted numbers = [1, 2, 3, 6] := sorted_eq (by decide +kernel) (by decide +kernel)
  have found : summary numbers = some s := by
    have median : median numbers = some (5 / 2) := by
      rw [Sample.median, sorted]
      decide +kernel
    rw [summary, median]
    decide +kernel
  have some_number : numbers ≠ [] := List.cons_ne_nil _ _
  obtain ⟨⟨s', same, describes, ordered⟩, _⟩ := summary_describes some_number
  obtain rfl := Option.some_inj.mp (found.symm.trans same)
  exact ⟨some_number, found, describes, ordered _ (by decide +kernel)⟩

end Sample

end Speedup
