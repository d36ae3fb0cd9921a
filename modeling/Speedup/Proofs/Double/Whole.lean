import Mathlib.Algebra.Order.Floor.Semifield
import Mathlib.Data.Rat.Floor
import Speedup.Proofs.Double.Value

/-!
# Whole doubles

A rounded quotient has the value of its mantissa in units of the last place
(`ofBits_roundMagnitude`). So whole numbers are still whole when they are rounded, and those below
`2 ^ 53` are still the same. The whole part of a finite double is exact, and what it leaves is zero
just for a double that is whole (`isZero_fract_iff`). Such a double is then taken for its value, but
at most for a number of 64 bits (`toInt64Clamped_eq`).
-/

namespace Speedup.Double

/-! ## Values of rounded quotients -/

section Rounded

variable {n d : Nat}

theorem toBits_natCast (n : Nat) : toBits n = roundMagnitude n 1 := by
  rw [toBits, Rat.num_natCast, Rat.den_natCast, Int.natAbs_natCast]

/-- Rounding knows a quotient by its value. -/
theorem toBits_div (hd : 0 < d) : toBits ((n : ℚ) / d) = roundMagnitude n d := by
  refine roundMagnitude_congr (Rat.den_pos _) hd ?_
  have nonneg : (0 : ℚ) ≤ n / d := by positivity
  have value := Rat.num_div_den ((n : ℚ) / d)
  rw [div_eq_div_iff (by exact_mod_cast Rat.den_ne_zero _) (by exact_mod_cast hd.ne')] at value
  have natAbs : (((n : ℚ) / d).num.natAbs : ℤ) = ((n : ℚ) / d).num :=
    Int.natAbs_of_nonneg (Rat.num_nonneg.mpr nonneg)
  zify
  rw [← Int.natCast_natAbs, natAbs]
  exact_mod_cast value

/-- The value is the mantissa in units of the last place, also where the mantissa is full and
carries. -/
theorem ofBits_roundMagnitude (hn : 0 < n) (hd : 0 < d)
    (finite : roundMagnitude n d < infinityBits) :
    ofBits (roundMagnitude n d) = mantissa n d * 2 ^ unitExponent n d := by
  have least : -1074 ≤ unitExponent n d := le_max_right _ _
  have upper := mantissa_le hn hd
  have full := le_mantissa hn hd
  rw [roundMagnitude_eq hn] at finite ⊢
  rw [min_eq_left (by omega)]
  obtain ⟨k, unit⟩ : ∃ k : ℕ, unitExponent n d = (k : ℤ) - 1074 :=
    ⟨(unitExponent n d + 1074).toNat, by omega⟩
  have steps : (unitExponent n d + 1074).toNat = k := by omega
  rw [unit] at full
  rw [steps, unit, ofBits, dyadic_scaled]
  generalize mantissa n d = m at upper full
  rcases upper.lt_or_eq with less | rfl
  · have field : exponentField (k * 2 ^ 52 + m) = k + 1 := by
      rw [exponentField]
      omega
    have units : k * 2 ^ 52 + m - (k + 1 - 1) * 2 ^ 52 = m := by omega
    have exponent : ((k + 1 : Nat) : ℤ) - 1075 = k - 1074 := by omega
    rw [field, units, exponent]
  · have field : exponentField (k * 2 ^ 52 + 2 ^ 53) = k + 2 := by
      rw [exponentField]
      omega
    have units : k * 2 ^ 52 + 2 ^ 53 - (k + 2 - 1) * 2 ^ 52 = 2 ^ 52 := by omega
    have exponent : ((k + 2 : Nat) : ℤ) - 1075 = (k - 1074) + 1 := by omega
    rw [field, units, exponent, zpow_add_one₀ two_ne_zero]
    push_cast
    ring

/-- A whole number whose last place is that of a fraction is a double. -/
theorem ofBits_roundMagnitude_of_unitExponent (hn : 0 < n)
    (finite : roundMagnitude n 1 < infinityBits) (unit : unitExponent n 1 ≤ 0) :
    ofBits (roundMagnitude n 1) = n := by
  have whole : mantissa n 1 = n * 2 ^ (-unitExponent n 1).toNat := by
    have exact := nearestEven_mul (n * 2 ^ (-unitExponent n 1).toNat) 1 one_pos
    rw [Nat.mul_one] at exact
    rw [mantissa, show (unitExponent n 1).toNat = 0 by omega, Nat.shiftLeft_zero,
      Nat.shiftLeft_eq, exact]
  obtain ⟨k, negative⟩ : ∃ k : ℕ, unitExponent n 1 = -k :=
    ⟨(-unitExponent n 1).toNat, by omega⟩
  rw [ofBits_roundMagnitude hn one_pos finite, whole, negative]
  simp

theorem ofBits_roundMagnitude_of_lt (h : n < 2 ^ 53) : ofBits (roundMagnitude n 1) = n := by
  rcases n.eq_zero_or_pos with rfl | hn
  · exact ofBits_zero.trans Nat.cast_zero.symm
  · have finite : roundMagnitude n 1 < infinityBits := by
      rw [← magnitude_ofNat, ← isFinite_iff]
      exact isFinite_ofNat (by omega)
    refine ofBits_roundMagnitude_of_unitExponent hn finite ?_
    have below : binade n 1 < 53 := by
      rw [← zpow_lt_zpow_iff_right₀ (one_lt_two : (1 : ℚ) < 2)]
      refine (binade_bounds hn one_pos).1.trans_lt ?_
      rw [Nat.cast_one, div_one]
      exact_mod_cast h
    rw [unitExponent]
    omega

theorem exists_natCast_roundMagnitude (finite : roundMagnitude n 1 < infinityBits) :
    ∃ k : ℕ, ofBits (roundMagnitude n 1) = k := by
  rcases n.eq_zero_or_pos with rfl | hn
  · exact ⟨0, ofBits_zero.trans Nat.cast_zero.symm⟩
  rcases le_total (unitExponent n 1) 0 with fraction | whole
  · exact ⟨n, ofBits_roundMagnitude_of_unitExponent hn finite fraction⟩
  · obtain ⟨k, unit⟩ := Int.eq_ofNat_of_zero_le whole
    refine ⟨mantissa n 1 * 2 ^ k, ?_⟩
    rw [ofBits_roundMagnitude hn one_pos finite, unit]
    simp

end Rounded

/-! ## Whole parts -/

section WholePart

variable {x : Double}

theorem wholePart_eq_floor (x : Double) : x.wholePart = ⌊x.absExact⌋₊ := by
  rw [wholePart, absExact, dyadic_eq]
  generalize scaled x.magnitude = parts
  obtain ⟨m, q⟩ := parts
  dsimp only
  split
  next whole =>
    lift q to ℕ using whole
    have value : (m : ℚ) * 2 ^ (q : ℤ) = (m <<< q : Nat) := by simp [Nat.shiftLeft_eq]
    rw [value, Nat.floor_natCast, Int.toNat_natCast]
  next fraction =>
    obtain ⟨k, rfl⟩ : ∃ k : ℕ, q = -k := ⟨(-q).toNat, by omega⟩
    have value : (m : ℚ) * 2 ^ (-k : ℤ) = (m : ℚ) / (2 ^ k : Nat) := by
      rw [zpow_neg, zpow_natCast, div_eq_mul_inv]
      push_cast
      rfl
    rw [value, Nat.floor_div_eq_div, Nat.shiftRight_eq_div_pow, neg_neg, Int.toNat_natCast]

theorem absExact_nonneg (x : Double) : 0 ≤ x.absExact := ofBits_nonneg _

/-- The whole part is a double: without a fraction there is only the double itself, and with one
there are not many digits. -/
theorem ofBits_roundMagnitude_wholePart (finite : x.isFinite = true) :
    roundMagnitude x.wholePart 1 < infinityBits ∧
      ofBits (roundMagnitude x.wholePart 1) = x.wholePart := by
  rw [isFinite_iff] at finite
  have mantissa := scaled_fst_lt x.magnitude
  rcases le_or_gt 0 (scaled x.magnitude).2 with whole | fraction
  · have exact : (x.wholePart : ℚ) = ofBits x.magnitude := by
      obtain ⟨k, unit⟩ := Int.eq_ofNat_of_zero_le whole
      rw [wholePart, ofBits, dyadic_eq]
      dsimp only
      rw [if_pos whole, unit]
      simp [Nat.shiftLeft_eq]
    rw [← toBits_natCast, exact, toBits_ofBits finite]
    exact ⟨finite, rfl⟩
  · have small : x.wholePart < 2 ^ 53 := by
      rw [wholePart]
      dsimp only
      rw [if_neg fraction.not_ge, Nat.shiftRight_eq_div_pow]
      exact (Nat.div_le_self _ _).trans_lt mantissa
    refine ⟨?_, ofBits_roundMagnitude_of_lt small⟩
    rw [← magnitude_ofNat, ← isFinite_iff]
    exact isFinite_ofNat (by omega)

theorem trunc_eq (finite : x.isFinite = true) :
    x.trunc = ofParts x.negative (roundMagnitude x.wholePart 1) := if_pos finite

theorem isFinite_trunc (finite : x.isFinite = true) : x.trunc.isFinite = true := by
  rw [isFinite_iff, trunc_eq finite, magnitude_ofParts (roundMagnitude_lt _ _)]
  exact (ofBits_roundMagnitude_wholePart finite).1

theorem toRat_trunc (finite : x.isFinite = true) :
    x.trunc.toRat = if x.negative then -(x.wholePart : ℚ) else x.wholePart := by
  rw [toRat, absExact_eq, trunc_eq finite, negative_ofParts (roundMagnitude_lt _ _),
    magnitude_ofParts (roundMagnitude_lt _ _), (ofBits_roundMagnitude_wholePart finite).2]

/-- All finite doubles are multiples of the least one. -/
theorem exists_absExact_mul_pow (x : Double) :
    ∃ k : ℕ, x.absExact * (2 ^ 1074 : ℕ) = k := by
  obtain ⟨least, _⟩ := magnitude_eq x.magnitude
  obtain ⟨j, unit⟩ : ∃ j : ℕ, (scaled x.magnitude).2 = (j : ℤ) - 1074 :=
    ⟨((scaled x.magnitude).2 + 1074).toNat, by omega⟩
  refine ⟨(scaled x.magnitude).1 * 2 ^ j, ?_⟩
  rw [absExact, dyadic_eq, unit, mul_assoc, Nat.cast_pow, Nat.cast_two, ← zpow_natCast,
    ← zpow_add₀ two_ne_zero]
  simp

/-- No positive number of a size that doubles can have is rounded to zero. -/
theorem toBits_pos {r : ℚ} (h : 1 ≤ r * (2 ^ 1074 : ℕ)) : 0 < toBits r := by
  have least : ofBits 1 ≤ r := by
    rw [Nat.cast_pow, Nat.cast_two] at h
    rw [ofBits, dyadic_eq, show scaled 1 = (1, -1074) by decide, Nat.cast_one, one_mul, zpow_neg,
      inv_le_iff_one_le_mul₀ (by positivity)]
    exact h
  have bits := toBits_mono (ofBits_nonneg 1) least
  rwa [toBits_ofBits (by decide)] at bits

/-- Two multiples of a unit fraction, one of which is whole, are no nearer than this unit. -/
theorem one_le_sub_mul {a : ℚ} {b k u : ℕ} (hu : 0 < u) (multiple : a * u = k)
    (less : (b : ℚ) < a) : 1 ≤ (a - b) * u := by
  have more : ((b * u : ℕ) : ℚ) < k := by
    rw [← multiple, Nat.cast_mul]
    exact mul_lt_mul_of_pos_right less (by exact_mod_cast hu)
  have step : ((b * u + 1 : ℕ) : ℚ) ≤ k := Nat.cast_le.mpr (Nat.cast_lt.mp more)
  rw [sub_mul, multiple]
  push_cast at step
  linarith

/-- Taking off the whole part leaves zero of a double that is whole, and of no other. -/
theorem isZero_fract_iff (finite : x.isFinite = true) :
    x.fract.isZero = true ↔ x.absExact = x.wholePart := by
  have difference : toBits (x.toRat - x.trunc.toRat) = toBits (x.absExact - x.wholePart) := by
    rw [toRat_trunc finite, toRat]
    split
    · rw [← toBits_neg]
      congr 1
      ring
    · rfl
  have zero : x.fract.isZero = true ↔ toBits (x.absExact - x.wholePart) = 0 := by
    rw [isZero, beq_iff_eq, ← natAbs_place, fract, place_sub finite (isFinite_trunc finite),
      natAbs_place_ofRat, difference]
  rw [zero]
  constructor
  · intro nothing
    have atMost : (x.wholePart : ℚ) ≤ x.absExact := by
      rw [wholePart_eq_floor]
      exact Nat.floor_le (absExact_nonneg x)
    refine atMost.antisymm' (not_lt.mp fun less => ?_)
    -- a difference of multiples of the least double is at least that one
    obtain ⟨k, units⟩ := exists_absExact_mul_pow x
    have unit := one_le_sub_mul (by positivity) units less
    exact (toBits_pos unit).ne' nothing
  · intro whole
    rw [whole, sub_self, toBits_zero]

/-- A finite double without a fraction has a whole number for its value. -/
theorem absExact_eq_wholePart_iff : x.absExact = x.wholePart ↔ ∃ w : ℤ, x.toRat = w := by
  constructor
  · intro whole
    refine ⟨if x.negative then -(x.wholePart : ℤ) else x.wholePart, ?_⟩
    rw [toRat, whole]
    split <;> simp
  · rintro ⟨w, value⟩
    have magnitude : x.absExact = w.natAbs := by
      rw [Nat.cast_natAbs, Int.cast_abs, ← value, toRat]
      split
      · rw [abs_neg, abs_of_nonneg (absExact_nonneg x)]
      · rw [abs_of_nonneg (absExact_nonneg x)]
    rw [wholePart_eq_floor, magnitude, Nat.floor_natCast]

/-! ## Whole numbers of 64 bits -/

/-- The number of 64 bits that is nearest to a whole number. -/
def within64 (w : ℤ) : ℤ := max (-2 ^ 63) (min w (2 ^ 63 - 1))

theorem within64_of_mem {w : ℤ} (low : -2 ^ 63 ≤ w) (high : w < 2 ^ 63) : within64 w = w := by
  unfold within64
  omega

theorem toNatClamped_eq (finite : x.isFinite = true) (positive : x.negative = false)
    (limit : Nat) : x.toNatClamped limit = min x.wholePart (limit - 1) := by
  have bounded : x.isInfinite = false := beq_false_of_ne (isFinite_iff.mp finite).ne
  rw [toNatClamped, isNaN_of_isFinite finite, positive, bounded]
  rfl

theorem toInt64Clamped_eq (finite : x.isFinite = true) {w : ℤ} (value : x.toRat = w) :
    x.toInt64Clamped = within64 w := by
  have size : UInt64.size / 2 = 2 ^ 63 := by decide
  have whole := absExact_eq_wholePart_iff.mpr ⟨w, value⟩
  rw [toRat, whole] at value
  rw [toInt64Clamped, isNaN_of_isFinite finite, size, within64, if_neg Bool.false_ne_true]
  cases sign : x.negative with
  | true =>
      rw [sign, if_pos rfl] at value
      have below : w = -(x.wholePart : ℤ) := by exact_mod_cast value.symm
      have same : x.abs.magnitude = x.magnitude := magnitude_ofParts (magnitude_lt x)
      have finite' : x.abs.isFinite = true := by rwa [isFinite_iff, same, ← isFinite_iff]
      have part : x.abs.wholePart = x.wholePart := by rw [wholePart, wholePart, same]
      rw [if_pos rfl, toNatClamped_eq finite' (negative_ofParts (magnitude_lt x)), part]
      omega
  | false =>
      rw [sign, if_neg Bool.false_ne_true] at value
      have above : w = (x.wholePart : ℤ) := by exact_mod_cast value.symm
      rw [if_neg Bool.false_ne_true, toNatClamped_eq finite sign]
      omega

/-- What is finite and without a fraction is taken for its value, within 64 bits. -/
theorem whole_iff {n : ℤ} :
    (x.isFinite = true ∧ x.fract.isZero = true ∧ x.toInt64Clamped = n) ↔
      ∃ w : ℤ, x.value? = some (w : ℚ) ∧ n = within64 w := by
  constructor
  · rintro ⟨finite, fraction, rfl⟩
    obtain ⟨w, value⟩ := absExact_eq_wholePart_iff.mp ((isZero_fract_iff finite).mp fraction)
    exact ⟨w, by rw [value?_of_isFinite finite, value], toInt64Clamped_eq finite value⟩
  · rintro ⟨w, value, rfl⟩
    have finite : x.isFinite = true := by
      by_contra infinite
      rw [value?, if_neg infinite] at value
      cases value
    rw [value?_of_isFinite finite, Option.some.injEq] at value
    refine ⟨finite, ?_, toInt64Clamped_eq finite value⟩
    exact (isZero_fract_iff finite).mpr (absExact_eq_wholePart_iff.mpr ⟨w, value⟩)

end WholePart

/-! ## Nearest doubles -/

section Nearest

variable {x y : Double} {r : ℚ}

/-- The two zeros apart, doubles of one place are the same. -/
theorem value?_congr (h : x.place = y.place) : x.value? = y.value? := by
  have finite : x.isFinite = y.isFinite := by
    rw [Bool.eq_iff_iff, isFinite_iff_place, isFinite_iff_place, h]
  cases hx : x.isFinite with
  | true => rw [value?_of_isFinite hx, value?_of_isFinite (finite ▸ hx), toRat_congr h]
  | false => simp [value?, hx, ← finite]

/-- The value of a double is not changed by rounding. -/
theorem value?_ofRat (h : x.value? = some r) : (ofRat r).value? = some r := by
  have finite : x.isFinite = true := by
    by_contra infinite
    rw [value?, if_neg infinite] at h
    cases h
  rw [value?_of_isFinite finite, Option.some.injEq] at h
  subst h
  rw [value?_congr (place_ofRat_toRat finite), value?_of_isFinite finite]

/-- The place of a number with a sign of its own, which a zero may have as well. -/
theorem place_ofRat_signed (negative : Bool) (nonneg : 0 ≤ r) :
    (ofRat (if negative then -r else r)).place =
      if negative then -(toBits r : ℤ) else toBits r := by
  rw [ofRat, place_ofMagnitude]
  cases negative with
  | false => simp [nonneg.not_gt]
  | true =>
      rcases nonneg.eq_or_lt with rfl | positive
      · simp [toBits_zero]
      · simp [positive, toBits_neg]

theorem magnitude_ofRat_intCast (n : ℤ) : (ofRat n).magnitude = roundMagnitude n.natAbs 1 := by
  rw [ofRat, magnitude_ofMagnitude, Rat.num_intCast, Rat.den_intCast]

/-- A whole number of 64 bits is rounded to a whole number. -/
theorem exists_value?_ofRat_intCast {n : ℤ} (low : -2 ^ 63 ≤ n) (high : n ≤ 2 ^ 63) :
    ∃ w : ℤ, (ofRat n).value? = some (w : ℚ) := by
  have bits := magnitude_ofRat_intCast n
  have finite : (ofRat n).isFinite = true := by
    rw [isFinite_iff, bits, ← magnitude_ofNat, ← isFinite_iff]
    exact isFinite_ofNat (by omega)
  obtain ⟨k, value⟩ := exists_natCast_roundMagnitude (bits ▸ isFinite_iff.mp finite)
  refine ⟨if (ofRat n).negative then -(k : ℤ) else k, ?_⟩
  rw [value?_of_isFinite finite, toRat, absExact_eq, bits, value]
  split <;> simp

/-- Whole numbers below `2 ^ 53` are doubles. -/
theorem value?_ofRat_intCast {n : ℤ} (h : n.natAbs < 2 ^ 53) :
    (ofRat n).value? = some (n : ℚ) := by
  have bits := magnitude_ofRat_intCast n
  have finite : (ofRat n).isFinite = true := by
    rw [isFinite_iff, bits, ← magnitude_ofNat, ← isFinite_iff]
    exact isFinite_ofNat (by omega)
  have sign : (ofRat n).negative = decide (n < 0) := by
    rw [ofRat, negative_ofMagnitude]
    simp
  rw [value?_of_isFinite finite, toRat, absExact_eq, bits, ofBits_roundMagnitude_of_lt h, sign]
  by_cases negative : n < 0
  · have value : -((n.natAbs : ℤ) : ℚ) = n := by exact_mod_cast (by omega : -(n.natAbs : ℤ) = n)
    simpa [negative] using value
  · have value : ((n.natAbs : ℤ) : ℚ) = n := by exact_mod_cast (by omega : (n.natAbs : ℤ) = n)
    simpa [negative] using value

end Nearest

end Speedup.Double
