import Speedup.Proofs.Double.Division

/-!
# Exact quotients

A quotient that is a double already is rounded to this double (`roundMagnitude_of_exact`): the
binade of the quotient gives back the exponent of the double, and in units of its last place the
quotient is a whole number. Rounding knows a quotient by its value only (`roundMagnitude_congr`).
-/

namespace Speedup.Double

/-! ## The parts of a magnitude -/

section Scaled

variable {M : Nat}

/-- Mantissa and exponent determine the magnitude, also where there is no leading one. -/
theorem magnitude_eq (M : Nat) :
    -1074 ≤ (scaled M).2 ∧ ((scaled M).2 + 1074).toNat * 2 ^ 52 + (scaled M).1 = M := by
  rw [scaled_eq]
  split
  next least => exact ⟨le_rfl, by dsimp only; omega⟩
  next above => constructor <;> (dsimp only; omega)

theorem scaled_fst_lt (M : Nat) : (scaled M).1 < 2 ^ 53 := by
  rw [scaled_eq]
  split <;> (dsimp only; omega)

/-- Above the least exponent there is a leading one. -/
theorem le_scaled_fst (M : Nat) (above : -1074 < (scaled M).2) : 2 ^ 52 ≤ (scaled M).1 := by
  rw [scaled_eq] at above ⊢
  split at above
  next least => exact absurd rfl above.ne
  next other =>
    rw [if_neg other]
    exact Nat.le_add_right _ _

theorem scaled_fst_pos (h : 0 < M) : 0 < (scaled M).1 := by
  rw [scaled_eq]
  split <;> (dsimp only; omega)

theorem scaled_snd_lt (finite : M < infinityBits) : (scaled M).2 < 972 := by
  have bound : infinityBits = 2047 * 2 ^ 52 := by decide
  rw [scaled_eq]
  split <;> (dsimp only; omega)

end Scaled

/-! ## Rounding -/

section Rounding

variable {n d n' d' M : Nat}

theorem roundMagnitude_congr (hd : 0 < d) (hd' : 0 < d') (same : n * d' = n' * d) :
    roundMagnitude n d = roundMagnitude n' d' :=
  le_antisymm (roundMagnitude_mono hd hd' same.le) (roundMagnitude_mono hd' hd same.ge)

/-- The last place of an exact quotient is that of the double it is. -/
theorem unitExponent_of_exact (hn : 0 < n) (hd : 0 < d)
    (exact : (n : ℚ) / d = (scaled M).1 * 2 ^ (scaled M).2) : unitExponent n d = (scaled M).2 := by
  have two : (2 : ℚ) ≠ 0 := two_ne_zero
  have power : (0 : ℚ) < 2 ^ (scaled M).2 := by positivity
  obtain ⟨low, high⟩ := binade_bounds hn hd
  obtain ⟨least, _⟩ := magnitude_eq M
  have below : binade n d < 53 + (scaled M).2 := by
    rw [← zpow_lt_zpow_iff_right₀ (one_lt_two : (1 : ℚ) < 2), zpow_add₀ two]
    refine low.trans_lt ?_
    rw [exact]
    exact mul_lt_mul_of_pos_right (by exact_mod_cast scaled_fst_lt M) power
  rw [unitExponent]
  rcases least.eq_or_lt with same | above
  · omega
  · have full : 52 + (scaled M).2 < binade n d + 1 := by
      rw [← zpow_lt_zpow_iff_right₀ (one_lt_two : (1 : ℚ) < 2), zpow_add₀ two]
      refine lt_of_le_of_lt ?_ high
      rw [exact]
      exact mul_le_mul_of_nonneg_right (by exact_mod_cast le_scaled_fst M above) power.le
    omega

/-- A quotient that is the exact value of a double rounds to it. -/
theorem roundMagnitude_of_exact (hd : 0 < d) (positive : 0 < M) (finite : M < infinityBits)
    (exact : (n : ℚ) / d = (scaled M).1 * 2 ^ (scaled M).2) : roundMagnitude n d = M := by
  have hd' : (0 : ℚ) < d := by exact_mod_cast hd
  have mantissa_pos : (0 : ℚ) < (scaled M).1 := by exact_mod_cast scaled_fst_pos positive
  have hn : 0 < n := by
    have quotient : (0 : ℚ) < n / d := by
      rw [exact]
      positivity
    exact_mod_cast (div_pos_iff_of_pos_right hd').mp quotient
  have unit := unitExponent_of_exact hn hd exact
  have whole : n <<< (-(scaled M).2).toNat = (scaled M).1 * d <<< (scaled M).2.toNat := by
    rw [div_eq_iff hd'.ne'] at exact
    rw [Nat.shiftLeft_eq, Nat.shiftLeft_eq, ← Nat.cast_inj (R := ℚ)]
    push_cast
    rw [exact, ← zpow_mul_toNat two_ne_zero (scaled M).2]
    ring
  have units : mantissa n d = (scaled M).1 := by
    rw [mantissa, unit, whole]
    exact nearestEven_mul _ _ (shiftLeft_pos hd _)
  rw [roundMagnitude_eq hn, unit, units, (magnitude_eq M).2]
  exact min_eq_left finite.le

end Rounding

/-! ## Doubles from their parts -/

theorem magnitude_lt (x : Double) : x.magnitude < signWeight := Nat.mod_lt _ (by decide)

theorem ofParts_magnitude (x : Double) : ofParts x.negative x.magnitude = x := by
  have word : x.bits.toNat < 2 ^ 64 := x.bits.toNat_lt
  have bits : (ofParts x.negative x.magnitude).bits.toNat = x.bits.toNat := by
    rw [toNat_bits_ofParts x.magnitude_lt, negative, magnitude]
    unfold signWeight
    split
    next sign =>
      rw [decide_eq_true_eq] at sign
      omega
    next sign =>
      rw [decide_eq_true_eq] at sign
      omega
  show (⟨(ofParts x.negative x.magnitude).bits⟩ : Double) = ⟨x.bits⟩
  rw [UInt64.toNat_inj.mp bits]

end Speedup.Double
