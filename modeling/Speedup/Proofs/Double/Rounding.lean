import Mathlib.Algebra.Order.Field.Power
import Mathlib.Data.Rat.Cast.Order
import Mathlib.Tactic.FieldSimp
import Mathlib.Tactic.Linarith
import Mathlib.Tactic.Positivity
import Mathlib.Tactic.Ring
import Speedup.Double.Rounding

/-!
# Rounding keeps order

A larger quotient never rounds to a smaller double (`roundMagnitude_mono`). Within one binade
this is a fact about rounding to the nearest whole number; across binades the bit patterns are
compared, where a mantissa that is full carries into the next exponent.

The bits of a magnitude are in the order of the numbers they stand for (`dyadic_scaled_mono`),
so an operation on doubles keeps order where its exact counterpart does.
-/

namespace Speedup

/-! ## The nearest whole number -/

section NearestEven

variable {n d n' d' : Nat}

/-- A quotient is rounded up from above a half on, and from a half on if it is odd. -/
theorem nearestEven_eq_succ_iff :
    nearestEven n d = n / d + 1 ↔ d < 2 * (n % d) ∨ d = 2 * (n % d) ∧ n / d % 2 = 1 := by
  simp only [nearestEven]
  split
  · omega
  · split
    · omega
    · split <;> omega

theorem nearestEven_mono (hd : 0 < d) (hd' : 0 < d') (h : n * d' ≤ n' * d) :
    nearestEven n d ≤ nearestEven n' d' := by
  have floors : n / d ≤ n' / d' := by
    rw [Nat.le_div_iff_mul_le hd']
    refine Nat.le_of_mul_le_mul_right ?_ hd
    calc n / d * d' * d = n / d * d * d' := by ring
      _ ≤ n * d' := Nat.mul_le_mul_right d' (Nat.div_mul_le_self n d)
      _ ≤ n' * d := h
  have bounds := nearestEven_bounds n d
  have bounds' := nearestEven_bounds n' d'
  rcases Nat.lt_or_eq_of_le floors with less | same
  · omega
  · -- the whole parts agree, so the remainders are in the order of the quotients
    have remainders : n % d * d' ≤ n' % d' * d := by
      have split := Nat.div_add_mod n d
      have split' := Nat.div_add_mod n' d'
      rw [← split, ← split', same] at h
      nlinarith
    by_contra down
    have up : nearestEven n d = n / d + 1 := by omega
    have stay : ¬ nearestEven n' d' = n' / d' + 1 := by omega
    rw [nearestEven_eq_succ_iff] at up stay
    rw [not_or, not_lt, not_and_or] at stay
    rcases up with more | ⟨half, odd⟩
    · nlinarith
    · have least : d' ≤ 2 * (n' % d') := by nlinarith
      omega

end NearestEven

namespace Double

/-! ## The binade of a quotient -/

section Binade

variable {n d : Nat}

/-- A power with a whole exponent, as a quotient of powers with natural ones. -/
theorem zpow_mul_toNat {b : ℚ} (hb : b ≠ 0) (e : Int) : b ^ e * b ^ (-e).toNat = b ^ e.toNat := by
  rcases le_total 0 e with h | h
  · lift e to ℕ using h
    simp
  · obtain ⟨k, rfl⟩ : ∃ k : ℕ, e = -k := ⟨(-e).toNat, by omega⟩
    simp [hb]

theorem belowPower_iff (hd : 0 < d) (e : Int) : belowPower n d e = true ↔ (n : ℚ) / d < 2 ^ e := by
  have hd' : (0 : ℚ) < d := by exact_mod_cast hd
  rw [belowPower, decide_eq_true_eq, Nat.shiftLeft_eq, Nat.shiftLeft_eq, div_lt_iff₀ hd',
    ← Nat.cast_lt (α := ℚ)]
  push_cast
  rw [← zpow_mul_toNat two_ne_zero e, ← mul_assoc, mul_comm (d : ℚ)]
  exact mul_lt_mul_iff_left₀ (by positivity)

/-- The leading bits of a number bound it by neighbouring powers. -/
theorem zpow_log2_bounds (hn : 0 < n) :
    (2 : ℚ) ^ (n.log2 : Int) ≤ n ∧ (n : ℚ) < 2 ^ ((n.log2 : Int) + 1) := by
  constructor
  · rw [zpow_natCast]
    exact_mod_cast Nat.log2_self_le hn.ne'
  · have upper : n < 2 ^ (n.log2 + 1) := Nat.lt_log2_self
    rw [show (n.log2 : Int) + 1 = ((n.log2 + 1 : Nat) : Int) by norm_num, zpow_natCast]
    exact_mod_cast upper

theorem binade_bounds (hn : 0 < n) (hd : 0 < d) :
    (2 : ℚ) ^ binade n d ≤ n / d ∧ (n : ℚ) / d < 2 ^ (binade n d + 1) := by
  obtain ⟨nlow, nhigh⟩ := zpow_log2_bounds hn
  obtain ⟨dlow, dhigh⟩ := zpow_log2_bounds hd
  have hd' : (0 : ℚ) < d := by exact_mod_cast hd
  have two : (2 : ℚ) ≠ 0 := two_ne_zero
  unfold binade
  by_cases below : belowPower n d ((n.log2 : Int) - d.log2) = true
  · rw [if_pos below]
    refine ⟨?_, by simpa using (belowPower_iff hd _).mp below⟩
    rw [le_div_iff₀ hd']
    calc (2 : ℚ) ^ ((n.log2 : Int) - d.log2 - 1) * d
        ≤ 2 ^ ((n.log2 : Int) - d.log2 - 1) * 2 ^ ((d.log2 : Int) + 1) := by gcongr
      _ = 2 ^ (n.log2 : Int) := by rw [← zpow_add₀ two]; congr 1; ring
      _ ≤ n := nlow
  · rw [if_neg below]
    rw [belowPower_iff hd, not_lt] at below
    refine ⟨below, ?_⟩
    rw [div_lt_iff₀ hd']
    calc (n : ℚ) < 2 ^ ((n.log2 : Int) + 1) := nhigh
      _ = 2 ^ ((n.log2 : Int) - d.log2 + 1) * 2 ^ (d.log2 : Int) := by
          rw [← zpow_add₀ two]; congr 1; ring
      _ ≤ 2 ^ ((n.log2 : Int) - d.log2 + 1) * d := by gcongr

/-- A larger quotient has no smaller exponent. -/
theorem binade_mono {n' d' : Nat} (hn : 0 < n) (hd : 0 < d) (hn' : 0 < n') (hd' : 0 < d')
    (h : (n : ℚ) / d ≤ n' / d') : binade n d ≤ binade n' d' := by
  have less : (2 : ℚ) ^ binade n d < 2 ^ (binade n' d' + 1) :=
    ((binade_bounds hn hd).1.trans h).trans_lt (binade_bounds hn' hd').2
  have := (zpow_lt_zpow_iff_right₀ one_lt_two).mp less
  omega

end Binade

/-! ## Magnitudes -/

section Magnitude

def unitExponent (n d : Nat) : Int := max (binade n d - 52) (-1074)

def mantissa (n d : Nat) : Nat :=
  nearestEven (n <<< (-unitExponent n d).toNat) (d <<< (unitExponent n d).toNat)

variable {n d n' d' : Nat}

theorem roundMagnitude_eq (hn : 0 < n) :
    roundMagnitude n d =
      min ((unitExponent n d + 1074).toNat * 2 ^ 52 + mantissa n d) infinityBits :=
  if_neg hn.ne'

theorem shiftLeft_pos {m : Nat} (hm : 0 < m) (k : Nat) : 0 < m <<< k := by
  rw [Nat.shiftLeft_eq]
  positivity

/-- The mantissa against a power of two is the quotient against one. -/
theorem le_shifted_div_iff (hd : 0 < d) (q : Int) (k : Nat) :
    2 ^ k ≤ n <<< (-q).toNat / d <<< q.toNat ↔ (2 : ℚ) ^ ((k : Int) + q) ≤ n / d := by
  have hd' : (0 : ℚ) < d := by exact_mod_cast hd
  rw [Nat.le_div_iff_mul_le (shiftLeft_pos hd _), Nat.shiftLeft_eq, Nat.shiftLeft_eq,
    le_div_iff₀ hd', ← Nat.cast_le (α := ℚ), zpow_add₀ two_ne_zero, zpow_natCast]
  push_cast
  rw [← zpow_mul_toNat two_ne_zero q, show (2 : ℚ) ^ k * (d * (2 ^ q * 2 ^ (-q).toNat)) =
    2 ^ k * 2 ^ q * d * 2 ^ (-q).toNat by ring]
  exact mul_le_mul_iff_left₀ (by positivity)

theorem mantissa_le (hn : 0 < n) (hd : 0 < d) : mantissa n d ≤ 2 ^ 53 := by
  have floor : ¬ 2 ^ 53 ≤
      n <<< (-unitExponent n d).toNat / d <<< (unitExponent n d).toNat := by
    rw [le_shifted_div_iff hd, not_le]
    refine (binade_bounds hn hd).2.trans_le (zpow_le_zpow_right₀ one_le_two ?_)
    have := le_max_left (binade n d - 52) (-1074)
    rw [unitExponent]
    omega
  have := (nearestEven_bounds (n <<< (-unitExponent n d).toNat)
    (d <<< (unitExponent n d).toNat)).2
  rw [mantissa]
  omega

/-- Above the least exponent the mantissa is full. -/
theorem le_mantissa (hn : 0 < n) (hd : 0 < d) (h : -1074 < unitExponent n d) :
    2 ^ 52 ≤ mantissa n d := by
  refine le_trans ?_ (nearestEven_bounds _ _).1
  rw [le_shifted_div_iff hd]
  refine (zpow_le_zpow_right₀ one_le_two ?_).trans (binade_bounds hn hd).1
  rw [unitExponent, lt_max_iff] at h
  rw [unitExponent, max_eq_left (by omega)]
  omega

theorem roundMagnitude_mono (hd : 0 < d) (hd' : 0 < d') (h : n * d' ≤ n' * d) :
    roundMagnitude n d ≤ roundMagnitude n' d' := by
  rcases n.eq_zero_or_pos with rfl | hn
  · exact Nat.zero_le _
  have hn' : 0 < n' := by
    rcases n'.eq_zero_or_pos with rfl | hn'
    · have := Nat.mul_pos hn hd'
      omega
    · exact hn'
  have quotients : (n : ℚ) / d ≤ n' / d' := by
    rw [div_le_div_iff₀ (by exact_mod_cast hd) (by exact_mod_cast hd')]
    exact_mod_cast h
  have exponents : unitExponent n d ≤ unitExponent n' d' :=
    max_le_max_right _ (Int.sub_le_sub_right (binade_mono hn hd hn' hd' quotients) 52)
  have least : -1074 ≤ unitExponent n d := le_max_right _ _
  rw [roundMagnitude_eq hn, roundMagnitude_eq hn']
  refine min_le_min_right _ ?_
  rcases exponents.eq_or_lt with same | less
  · have mantissas : mantissa n d ≤ mantissa n' d' := by
      rw [mantissa, mantissa, ← same]
      refine nearestEven_mono (shiftLeft_pos hd _) (shiftLeft_pos hd' _) ?_
      simp only [Nat.shiftLeft_eq]
      generalize 2 ^ (-unitExponent n d).toNat = a
      generalize 2 ^ (unitExponent n d).toNat = b
      calc n * a * (d' * b) = n * d' * (a * b) := by ring
        _ ≤ n' * d * (a * b) := Nat.mul_le_mul_right _ h
        _ = n' * a * (d * b) := by ring
    rw [← same]
    omega
  · -- a mantissa of at most `2 ^ 53` is less than one step of the exponent and a full mantissa
    have upper := mantissa_le hn hd
    have lower := le_mantissa hn' hd' (by omega)
    have step : (unitExponent n d + 1074).toNat + 1 ≤ (unitExponent n' d' + 1074).toNat := by
      omega
    have := Nat.mul_le_mul_right (2 ^ 52) step
    omega

end Magnitude

/-! ## The numbers magnitudes stand for -/

section Exact

theorem scaled_eq (m : Nat) :
    scaled m = if m / 2 ^ 52 = 0 then (m % 2 ^ 52, -1074)
      else (2 ^ 52 + m % 2 ^ 52, ((m / 2 ^ 52 : Nat) : Int) - 1075) := rfl

theorem dyadic_eq (m : Nat) (q : Int) : dyadic m q = (m : ℚ) * 2 ^ q := by
  unfold dyadic
  by_cases nonneg : 0 ≤ q
  · rw [if_pos nonneg]
    lift q to ℕ using nonneg
    rw [Nat.shiftLeft_eq]
    push_cast
    simp
  · rw [if_neg nonneg]
    have power := zpow_mul_toNat (two_ne_zero (α := ℚ)) q
    rw [show q.toNat = 0 by omega, pow_zero] at power
    rw [Rat.mkRat_eq_div, eq_div_of_mul_eq (by positivity) power, Nat.one_shiftLeft]
    push_cast
    ring

/-- The exponent field that magnitude bits act as: the least one stands for a zero as well. -/
def exponentField (m : Nat) : Nat := max (m / 2 ^ 52) 1

theorem dyadic_scaled (m : Nat) :
    dyadic (scaled m).1 (scaled m).2 =
      ((m - (exponentField m - 1) * 2 ^ 52 : Nat) : ℚ) * 2 ^ ((exponentField m : Int) - 1075) := by
  simp only [dyadic_eq, scaled_eq, exponentField]
  by_cases zero : m / 2 ^ 52 = 0
  · have small : m % 2 ^ 52 = m := by omega
    rw [if_pos zero, zero, small]
    norm_num
  · have fraction : 2 ^ 52 + m % 2 ^ 52 = m - (m / 2 ^ 52 - 1) * 2 ^ 52 := by omega
    rw [if_neg zero, max_eq_left (by omega), ← fraction]

theorem dyadic_scaled_nonneg (m : Nat) : 0 ≤ dyadic (scaled m).1 (scaled m).2 := by
  rw [dyadic_eq]
  positivity

theorem dyadic_scaled_pos {m : Nat} (h : 0 < m) : 0 < dyadic (scaled m).1 (scaled m).2 := by
  have mantissa : 0 < (scaled m).1 := by
    rw [scaled_eq]
    split <;> simp only <;> omega
  rw [dyadic_eq]
  positivity

theorem dyadic_scaled_mono {m m' : Nat} (h : m ≤ m') :
    dyadic (scaled m).1 (scaled m).2 ≤ dyadic (scaled m').1 (scaled m').2 := by
  rw [dyadic_scaled, dyadic_scaled]
  have fields : exponentField m ≤ exponentField m' :=
    max_le_max_right 1 (Nat.div_le_div_right h)
  rcases Nat.eq_or_lt_of_le fields with same | less
  · rw [← same]
    gcongr
  · -- in a smaller field at most two binades are used up, in a larger one at least one is
    have upper : m - (exponentField m - 1) * 2 ^ 52 ≤ 2 ^ 53 := by
      rw [exponentField]
      omega
    have lower : 2 ^ 52 ≤ m' - (exponentField m' - 1) * 2 ^ 52 := by
      rw [exponentField] at less ⊢
      rw [exponentField] at less
      omega
    have exponents : (53 : Int) + (exponentField m - 1075) ≤ 52 + (exponentField m' - 1075) := by
      omega
    calc ((m - (exponentField m - 1) * 2 ^ 52 : Nat) : ℚ) * 2 ^ ((exponentField m : Int) - 1075)
        ≤ 2 ^ 53 * 2 ^ ((exponentField m : Int) - 1075) := by
          gcongr
          exact_mod_cast upper
      _ = 2 ^ ((53 : Int) + (exponentField m - 1075)) := by
          rw [zpow_add₀ two_ne_zero]
          norm_num
      _ ≤ 2 ^ ((52 : Int) + (exponentField m' - 1075)) := zpow_le_zpow_right₀ one_le_two exponents
      _ = 2 ^ 52 * 2 ^ ((exponentField m' : Int) - 1075) := by
          rw [zpow_add₀ two_ne_zero]
          norm_num
      _ ≤ ((m' - (exponentField m' - 1) * 2 ^ 52 : Nat) : ℚ) *
            2 ^ ((exponentField m' : Int) - 1075) := by
          gcongr
          exact_mod_cast lower

end Exact

end Double

end Speedup
