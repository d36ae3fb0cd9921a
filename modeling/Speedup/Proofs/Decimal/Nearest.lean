import Speedup.Proofs.Decimal.Denotation

/-!
# The double of a text

A text that denotes a number is read as the double nearest to it (`exists_parse?_of_denotes`), also
where only the number of its digits is looked at: numbers beyond four hundred places are beyond all
doubles on their side. What is read as something finite denotes a number
(`exists_denotes_of_parse?`).
-/

namespace Speedup.Decimal

open Double

variable {cs : List Char} {d : Decimal} {text : String} {x : Double} {r : ℚ}

/-! ## The double of a decimal -/

theorem toRat_eq_div (d : Decimal) : d.toRat =
    ((d.digits * 10 ^ d.exponent.toNat : ℕ) : ℚ) / (10 ^ (-d.exponent).toNat : ℕ) := by
  rw [eq_div_iff (by positivity), toRat]
  push_cast
  rw [← zpow_mul_toNat (by norm_num : (10 : ℚ) ≠ 0) d.exponent]
  ring

/-- The number of digits, and with it the size, bounds a number by powers of ten. -/
theorem toRat_bounds (some : 0 < d.digits) :
    (10 : ℚ) ^ (d.size - 1) ≤ d.toRat ∧ d.toRat < 10 ^ d.size := by
  have ten : (10 : ℚ) ≠ 0 := by norm_num
  have power : (0 : ℚ) < 10 ^ d.exponent := by positivity
  obtain ⟨k, length⟩ : ∃ k, (Text.digits d.digits).length = k + 1 :=
    Nat.exists_eq_succ_of_ne_zero
      (List.length_pos_iff.mpr (Text.digits_ne_nil d.digits)).ne'
  have lower : 10 ^ k ≤ d.digits := by
    by_contra less
    have short := (Text.length_digits_le_iff some).mpr (not_le.mp less)
    omega
  have upper := (Text.length_digits_le_iff some).mp length.le
  rw [size, length, toRat]
  constructor
  · rw [show ((k + 1 : ℕ) : ℤ) + d.exponent - 1 = k + d.exponent by omega, zpow_add₀ ten,
      zpow_natCast]
    exact mul_le_mul_of_nonneg_right (by exact_mod_cast lower) power.le
  · rw [zpow_add₀ ten, zpow_natCast]
    exact mul_lt_mul_of_pos_right (by exact_mod_cast upper) power

theorem toBits_of_large (h : 10 ^ (400 : ℤ) ≤ r) : toBits r = infinityBits := by
  have bits : toBits ((10 ^ 400 : ℕ) : ℚ) = infinityBits := by
    rw [toBits_natCast]
    decide +kernel
  refine le_antisymm (toBits_le r) (bits.ge.trans (toBits_mono (by positivity) ?_))
  rw [Nat.cast_pow]
  exact h

theorem toBits_of_small (nonneg : 0 ≤ r) (h : r ≤ 10 ^ (-400 : ℤ)) : toBits r = 0 := by
  have bits : toBits (((1 : ℕ) : ℚ) / (10 ^ 400 : ℕ)) = 0 := by
    rw [toBits_div (by positivity)]
    decide +kernel
  refine Nat.le_zero.mp ((toBits_mono nonneg ?_).trans bits.le)
  rw [Nat.cast_pow, Nat.cast_one, one_div]
  exact h

theorem magnitude_toDouble (s : Bool) (d : Decimal) : (d.toDouble s).magnitude = toBits d.toRat := by
  rcases d.digits.eq_zero_or_pos with none | some
  · have zero : d.toRat = 0 := by rw [toRat, none, Nat.cast_zero, zero_mul]
    rw [toDouble_eq, none, zero, toBits_zero]
    exact magnitude_ofParts (by decide)
  obtain ⟨low, high⟩ := toRat_bounds some
  rw [toDouble_eq]
  split
  next tiny =>
    have size : d.size < -400 := by simpa [some.ne'] using tiny
    have small : d.toRat ≤ 10 ^ (-400 : ℤ) :=
      high.le.trans (zpow_le_zpow_right₀ (by norm_num) size.le)
    rw [toBits_of_small d.toRat_nonneg small]
    exact magnitude_ofParts (by decide)
  · split
    next huge =>
      have large : (10 : ℚ) ^ (400 : ℤ) ≤ d.toRat :=
        (zpow_le_zpow_right₀ (by norm_num) (by omega)).trans low
      rw [toBits_of_large large]
      exact magnitude_ofParts (by decide)
    · rw [magnitude_ofParts (roundMagnitude_lt _ _), toRat_eq_div, toBits_div (by positivity)]

theorem negative_toDouble (s : Bool) (d : Decimal) : (d.toDouble s).negative = s := by
  rw [toDouble_eq]
  split
  · exact negative_ofParts (by decide)
  · split
    · exact negative_ofParts (by decide)
    · exact negative_ofParts (roundMagnitude_lt _ _)

/-- A decimal with a sign has the value of the double nearest to it. -/
theorem value?_toDouble (s : Bool) (d : Decimal) :
    (d.toDouble s).value? = (ofRat (if s then -d.toRat else d.toRat)).value? := by
  apply value?_congr
  rw [place_ofRat_signed s d.toRat_nonneg, place, negative_toDouble, magnitude_toDouble]

/-! ## The double of a text -/

/-- What is written begins with no letter, so it is not a word. -/
theorem Written.ne_word (h : Written cs d) {w : String}
    (letter : ∀ c, w.toList.head? = some c → ¬ (c.isDigit = true ∨ c = '.')) :
    String.ofList (cs.map Char.toLower) ≠ w := by
  obtain ⟨c, rest, rfl, first⟩ := h.head
  have same : c.toLower = c := by
    rcases first with digit | rfl
    · exact Text.toLower_of_isDigit digit
    · decide
  rintro rfl
  refine letter c ?_ first
  rw [String.toList_ofList, List.map_cons, same]
  rfl

theorem exists_parse?_of_denotes (h : Denotes text.toList r) :
    ∃ x, parse? text = some x ∧ x.value? = (ofRat r).value? := by
  obtain ⟨d, read, rfl⟩ := denotes_iff.mp h
  have written := read?_eq_some_iff.mp read
  have inf := written.ne_word (w := "inf") (by rintro c ⟨⟩; decide)
  have infinity := written.ne_word (w := "infinity") (by rintro c ⟨⟩; decide)
  have nan := written.ne_word (w := "nan") (by rintro c ⟨⟩; decide)
  refine ⟨_, ?_, value?_toDouble (splitSign text.toList).1 d⟩
  rw [parse?]
  dsimp only
  rw [decide_eq_false inf, decide_eq_false infinity, Bool.or_self, if_neg Bool.false_ne_true,
    if_neg nan, read]

theorem exists_denotes_of_parse? (h : parse? text = some x) (finite : x.isFinite = true) :
    ∃ r, Denotes text.toList r := by
  rw [parse?] at h
  dsimp only at h
  split at h
  · cases h
    generalize (splitSign text.toList).1 = s at finite
    cases s <;> exact absurd finite (by decide)
  · split at h
    · cases h
      generalize (splitSign text.toList).1 = s at finite
      cases s <;> exact absurd finite (by decide)
    · split at h
      next d read => exact ⟨_, denotes_iff.mpr ⟨d, read, rfl⟩⟩
      · cases h

end Speedup.Decimal
