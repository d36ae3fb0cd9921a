import Mathlib.Data.Int.ConditionallyCompleteOrder
import Mathlib.Order.ConditionallyCompleteLattice.Basic
import Mathlib.Order.WithBot
import Speedup.Double.Basic

/-!
# The two orders of doubles

`lt` and `ieeeEq` are no order on bit patterns: a NaN is on neither side of them, and the two
zeros are equal. Both are read off one value in a linear order, the `level` of a double, where
every NaN is below all numbers and the two zeros are the same. A fact about comparisons of
doubles is then a fact about levels.

`totalLE` is an order on bit patterns: two doubles with the same place in it are the same bits.
-/

namespace Speedup.Double

/-- The place of a number among the numbers; a NaN is below all of them. -/
def level (x : Double) : WithBot ℤ := if x.isNaN then ⊥ else (x.place : WithBot ℤ)

variable {x y : Double}

theorem level_of_isNaN (h : x.isNaN = true) : x.level = ⊥ := if_pos h

theorem level_of_not_isNaN (h : x.isNaN = false) : x.level = (x.place : WithBot ℤ) :=
  if_neg (by rw [h]; exact Bool.false_ne_true)

theorem level_eq_bot_iff : x.level = ⊥ ↔ x.isNaN = true := by
  cases h : x.isNaN with
  | true => simp [level_of_isNaN h]
  | false => simp [level_of_not_isNaN h]

theorem lt_iff_level : x.lt y = true ↔ x.isNaN = false ∧ x.level < y.level := by
  cases hx : x.isNaN with
  | true => simp [lt, hx]
  | false =>
      cases hy : y.isNaN with
      | true => simp [lt, hy, level_of_isNaN hy]
      | false => simp [lt, hx, hy, level_of_not_isNaN hx, level_of_not_isNaN hy]

theorem ieeeEq_iff_level : x.ieeeEq y = true ↔ x.isNaN = false ∧ x.level = y.level := by
  cases hx : x.isNaN with
  | true => simp [ieeeEq, hx]
  | false =>
      cases hy : y.isNaN with
      | true => simp [ieeeEq, hy, level_of_isNaN hy, level_of_not_isNaN hx]
      | false => simp [ieeeEq, hx, hy, level_of_not_isNaN hx, level_of_not_isNaN hy]

theorem lt_iff_place :
    x.lt y = true ↔ x.isNaN = false ∧ y.isNaN = false ∧ x.place < y.place := by
  rw [lt, Bool.and_eq_true, Bool.and_eq_true, Bool.not_eq_true', Bool.not_eq_true',
    decide_eq_true_eq, and_assoc]

/-- A number that is below no number of a kind is at most each of them. -/
theorem level_le_of_lt_eq_false (hy : y.isNaN = false) (h : y.lt x = false) :
    x.level ≤ y.level := by
  refine not_lt.mp fun less => ?_
  rw [lt_iff_level.mpr ⟨hy, less⟩] at h
  cases h

/-- Numerically at most: below or equal, for numbers only. -/
def AtMost (x y : Double) : Prop := x.lt y = true ∨ x.ieeeEq y = true

instance : Decidable (x.AtMost y) := inferInstanceAs (Decidable (_ ∨ _))

theorem atMost_iff_level : x.AtMost y ↔ x.isNaN = false ∧ x.level ≤ y.level := by
  rw [AtMost, lt_iff_level, ieeeEq_iff_level, ← and_or_left, le_iff_lt_or_eq]

/-- Of two numbers, one that the other is not below is at least that other one. -/
theorem lt_or_ieeeEq (hx : x.isNaN = false) (hy : y.isNaN = false) (h : y.lt x = false) :
    x.lt y = true ∨ x.ieeeEq y = true :=
  atMost_iff_level.mpr ⟨hx, level_le_of_lt_eq_false hy h⟩

theorem le_infinity (x : Double) : x.level ≤ (infinity false).level := by
  cases hx : x.isNaN with
  | true => rw [level_of_isNaN hx]; exact bot_le
  | false =>
      rw [level_of_not_isNaN hx, level_of_not_isNaN (by decide), WithBot.coe_le_coe]
      rw [isNaN, decide_eq_false_iff_not, not_lt] at hx
      have last : (infinity false).place = infinityBits := by decide
      rw [last, place]
      split <;> omega

theorem neg_infinity_le (hx : x.isNaN = false) : (infinity true).level ≤ x.level := by
  rw [level_of_not_isNaN hx, level_of_not_isNaN (by decide), WithBot.coe_le_coe]
  rw [isNaN, decide_eq_false_iff_not, not_lt] at hx
  have first : (infinity true).place = -(infinityBits : Int) := by decide
  rw [first, place]
  split <;> omega

/-! ## All bit patterns -/

theorem eq_of_totalPlace_eq (h : x.totalPlace = y.totalPlace) : x = y := by
  have bound (z : Double) : z.bits.toNat < 2 * signWeight := z.bits.toNat_lt
  have hx := bound x
  have hy := bound y
  suffices x.bits.toNat = y.bits.toNat by
    obtain ⟨_⟩ := x
    obtain ⟨_⟩ := y
    exact congrArg Double.mk (UInt64.toNat_inj.mp this)
  simp only [totalPlace, negative, magnitude, decide_eq_true_eq] at h
  unfold signWeight at *
  split at h <;> split at h <;> omega

theorem totalLE_antisymm (h : x.totalLE y = true) (h' : y.totalLE x = true) : x = y := by
  simp only [totalLE, decide_eq_true_eq] at h h'
  exact eq_of_totalPlace_eq (le_antisymm h h')

/-- The order of all bit patterns goes with the numerical one. -/
theorem totalPlace_lt_of_lt (h : x.lt y = true) : x.totalPlace < y.totalPlace := by
  obtain ⟨-, -, less⟩ := lt_iff_place.mp h
  rw [place, place] at less
  rw [totalPlace, totalPlace]
  revert less
  cases x.negative <;> cases y.negative <;>
    simp only [Bool.false_eq_true, if_false, if_true] <;> omega

/-- The NaN without a sign comes after every number. -/
theorem totalPlace_lt_nan (h : x.isNaN = false) : x.totalPlace < (nan false).totalPlace := by
  rw [isNaN, decide_eq_false_iff_not, not_lt] at h
  have last : (nan false).totalPlace = infinityBits + 0x8000000000000 := by decide
  rw [last, totalPlace]
  split <;> omega

end Speedup.Double
