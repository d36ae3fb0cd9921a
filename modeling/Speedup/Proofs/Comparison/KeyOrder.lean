import Mathlib.Data.Prod.Lex
import Speedup.Comparison.Ranking
import Speedup.Proofs.Double.Order

/-!
# The order of ranking keys

Who is better is said with the numerical comparisons alone: a number outranks what it exceeds
and every NaN, and two numbers tie when they are equal or both undefined (`Outranks`, `Ties`).
Keys compare lexicographically by their three numbers.

`Key.order` decides these relations, and it is the reversed comparison of `Key.level` in a
linear order (`order_eq_compare`). So it is consistent on all keys, whatever NaNs and zeros
they hold, and tied keys are those of one level.
-/

namespace Speedup.Ranked

/-! ## Numbers -/

/-- A number is better than a smaller one and than a NaN. -/
def Outranks (a b : Double) : Prop := a.isNaN = false ∧ (b.isNaN = true ∨ b.lt a = true)

/-- Numbers that count as the same: equal ones, and any two NaNs. -/
def Ties (a b : Double) : Prop := (a.isNaN = true ∧ b.isNaN = true) ∨ a.ieeeEq b = true

instance (a b : Double) : Decidable (Outranks a b) := inferInstanceAs (Decidable (_ ∧ _))

instance (a b : Double) : Decidable (Ties a b) := inferInstanceAs (Decidable (_ ∨ _))

variable {x y : Double}

theorem outranks_iff_level : Outranks x y ↔ y.level < x.level := by
  cases hx : x.isNaN with
  | true => simp [Outranks, hx, Double.level_of_isNaN hx]
  | false =>
      cases hy : y.isNaN with
      | true => simp [Outranks, hx, hy, Double.level_of_isNaN hy, Double.level_of_not_isNaN hx]
      | false => simp [Outranks, hx, hy, Double.lt_iff_level]

theorem ties_iff_level : Ties x y ↔ x.level = y.level := by
  cases hx : x.isNaN with
  | true => simp [Ties, hx, Double.ieeeEq_iff_level, Double.level_of_isNaN hx,
      Double.level_eq_bot_iff, eq_comm (a := (⊥ : WithBot ℤ))]
  | false => simp [Ties, hx, Double.ieeeEq_iff_level]

/-- Descending order with NaNs last is the ascending order of levels, turned around. -/
theorem descending_eq_compare (a b : Double) : descending a b = compare b.level a.level := by
  cases ha : a.isNaN with
  | true =>
      cases hb : b.isNaN with
      | true => simp [descending, ha, hb, Double.level_of_isNaN]
      | false =>
          rw [Double.level_of_isNaN ha, Double.level_of_not_isNaN hb,
            compare_gt_iff_gt.mpr (WithBot.bot_lt_coe b.place)]
          simp [descending, ha, hb]
  | false =>
      cases hb : b.isNaN with
      | true =>
          rw [Double.level_of_isNaN hb, Double.level_of_not_isNaN ha,
            compare_lt_iff_lt.mpr (WithBot.bot_lt_coe a.place)]
          simp [descending, ha, hb]
      | false =>
          simp only [descending, ha, hb, Double.lt, Bool.not_false, Bool.true_and,
            decide_eq_true_eq, Double.level_of_not_isNaN]
          rcases lt_trichotomy b.place a.place with h | h | h
          · rw [if_pos h, compare_lt_iff_lt.mpr (WithBot.coe_lt_coe.mpr h)]
          · simp [h]
          · rw [if_neg h.not_gt, if_pos h, compare_gt_iff_gt.mpr (WithBot.coe_lt_coe.mpr h)]

namespace Key

/-- A key is better when its first number that does not tie is. -/
def Outranks (a b : Key) : Prop :=
  Ranked.Outranks a.geoMean b.geoMean ∨
    Ranked.Ties a.geoMean b.geoMean ∧
      (Ranked.Outranks a.winRate b.winRate ∨
        Ranked.Ties a.winRate b.winRate ∧ Ranked.Outranks a.median b.median)

/-- Keys tie when all three of their numbers do. -/
def Ties (a b : Key) : Prop :=
  Ranked.Ties a.geoMean b.geoMean ∧ Ranked.Ties a.winRate b.winRate ∧
    Ranked.Ties a.median b.median

instance (a b : Key) : Decidable (a.Outranks b) := inferInstanceAs (Decidable (_ ∨ _))

instance (a b : Key) : Decidable (a.Ties b) := inferInstanceAs (Decidable (_ ∧ _))

/-- The levels of the three numbers, in lexicographic order. -/
def level (k : Key) : WithBot ℤ ×ₗ WithBot ℤ ×ₗ WithBot ℤ :=
  toLex (k.geoMean.level, toLex (k.winRate.level, k.median.level))

variable {a b : Key}

theorem outranks_iff_level : a.Outranks b ↔ b.level < a.level := by
  simp only [Outranks, level, Ranked.outranks_iff_level, Ranked.ties_iff_level,
    Prod.Lex.toLex_lt_toLex, eq_comm]

theorem ties_iff_level : a.Ties b ↔ a.level = b.level := by
  simp [Ties, level, Ranked.ties_iff_level]

theorem order_eq_compare (a b : Key) : a.order b = compare b.level a.level := by
  simp only [order, descending_eq_compare]
  rfl

/-- Keys compare as their levels do, turned around. -/
instance : Std.TransCmp order where
  eq_swap := by
    intro a b
    rw [order_eq_compare, order_eq_compare]
    exact Std.OrientedOrd.eq_swap
  isLE_trans := by
    intro a b c hab hbc
    rw [order_eq_compare] at hab hbc ⊢
    exact Std.TransOrd.isLE_trans hbc hab

theorem order_eq_lt_iff : a.order b = .lt ↔ a.Outranks b := by
  rw [order_eq_compare, compare_lt_iff_lt, outranks_iff_level]

theorem order_eq_eq_iff : a.order b = .eq ↔ a.Ties b := by
  rw [order_eq_compare, compare_eq_iff_eq, ties_iff_level, eq_comm]

theorem order_eq_gt_iff : a.order b = .gt ↔ b.Outranks a := by
  rw [Std.OrientedCmp.gt_iff_lt, order_eq_lt_iff]

end Key

end Speedup.Ranked
