import Mathlib.Algebra.Order.Field.Rat
import Speedup.Double.Arithmetic
import Speedup.Proofs.Double.Order
import Speedup.Proofs.Double.Rounding

/-!
# Division of counts

The share of some things among all of them is a quotient of two counts that were rounded to
doubles first. Rounding keeps order in each step, so a larger part never has a smaller share
(`share_mono`), and a share lies between zero and one (`share_bounds`). Only with so many things
that their count rounds to infinity can a share be undefined (`share_isNaN`).
-/

namespace Speedup.Double

/-! ## Doubles from their parts -/

section Parts

variable {m : Nat} {s : Bool}

theorem toNat_bits_ofParts (h : m < signWeight) :
    (ofParts s m).bits.toNat = if s then signWeight + m else m := by
  have total : signWeight + signWeight = 2 ^ 64 := by decide
  rw [ofParts, UInt64.toNat_ofNat']
  refine Nat.mod_eq_of_lt ?_
  split <;> omega

theorem magnitude_ofParts (h : m < signWeight) : (ofParts s m).magnitude = m := by
  rw [magnitude, toNat_bits_ofParts h]
  split
  · rw [Nat.add_mod_left, Nat.mod_eq_of_lt h]
  · exact Nat.mod_eq_of_lt h

theorem negative_ofParts (h : m < signWeight) : (ofParts s m).negative = s := by
  rw [negative, toNat_bits_ofParts h]
  cases s with
  | true => simp
  | false => simpa using h

theorem roundMagnitude_le (n d : Nat) : roundMagnitude n d ≤ infinityBits := by
  rw [roundMagnitude]
  split
  · exact Nat.zero_le _
  · exact min_le_right _ _

theorem roundMagnitude_lt (n d : Nat) : roundMagnitude n d < signWeight :=
  (roundMagnitude_le n d).trans_lt (by decide)

end Parts

/-! ## Counts -/

section Counts

variable {k n : Nat}

theorem magnitude_ofNat (n : Nat) : (ofNat n).magnitude = roundMagnitude n 1 :=
  magnitude_ofParts (roundMagnitude_lt n 1)

theorem negative_ofNat (n : Nat) : (ofNat n).negative = false :=
  negative_ofParts (roundMagnitude_lt n 1)

theorem magnitude_ofNat_mono (h : k ≤ n) : (ofNat k).magnitude ≤ (ofNat n).magnitude := by
  rw [magnitude_ofNat, magnitude_ofNat]
  exact roundMagnitude_mono one_pos one_pos (by omega)

theorem isNaN_ofNat (n : Nat) : (ofNat n).isNaN = false := by
  rw [isNaN, magnitude_ofNat, decide_eq_false_iff_not, not_lt]
  exact roundMagnitude_le n 1

theorem magnitude_ofNat_pos (h : 0 < n) : 0 < (ofNat n).magnitude :=
  lt_of_lt_of_le (by decide +kernel : 0 < (ofNat 1).magnitude) (magnitude_ofNat_mono h)

theorem absExact_mono {x y : Double} (h : x.magnitude ≤ y.magnitude) : x.absExact ≤ y.absExact :=
  dyadic_scaled_mono h

/-- A count that a machine word holds is a finite double. -/
theorem isFinite_ofNat (h : n < 2 ^ 64) : (ofNat n).isFinite = true := by
  have bound : (ofNat (2 ^ 64)).magnitude < infinityBits := by decide +kernel
  rw [isFinite, decide_eq_true_eq]
  exact (magnitude_ofNat_mono h.le).trans_lt bound

end Counts

/-! ## Rounded quotients -/

section Quotients

variable {s : Bool} {r r' : ℚ}

theorem magnitude_ofMagnitude (s : Bool) (r : ℚ) :
    (ofMagnitude s r).magnitude = roundMagnitude r.num.natAbs r.den :=
  magnitude_ofParts (roundMagnitude_lt _ _)

theorem negative_ofMagnitude (s : Bool) (r : ℚ) : (ofMagnitude s r).negative = s :=
  negative_ofParts (roundMagnitude_lt _ _)

theorem isNaN_ofMagnitude (s : Bool) (r : ℚ) : (ofMagnitude s r).isNaN = false := by
  rw [isNaN, magnitude_ofMagnitude, decide_eq_false_iff_not, not_lt]
  exact roundMagnitude_le _ _

theorem magnitude_ofMagnitude_mono (nonneg : 0 ≤ r) (h : r ≤ r') :
    (ofMagnitude s r).magnitude ≤ (ofMagnitude s r').magnitude := by
  rw [magnitude_ofMagnitude, magnitude_ofMagnitude]
  refine roundMagnitude_mono r.den_pos r'.den_pos ?_
  zify
  rw [abs_of_nonneg (Rat.num_nonneg.mpr nonneg),
    abs_of_nonneg (Rat.num_nonneg.mpr (nonneg.trans h))]
  exact (Rat.le_iff r r').mp h

theorem place_of_negative_eq_false {x : Double} (h : x.negative = false) :
    x.place = x.magnitude := by
  rw [place, h]
  rfl

/-- Of two doubles without a sign, the one with the larger magnitude is not less. -/
theorem lt_eq_false_of_magnitude_le {x y : Double} (hx : x.negative = false)
    (hy : y.negative = false) (h : x.magnitude ≤ y.magnitude) : y.lt x = false := by
  rw [lt, place_of_negative_eq_false hx, place_of_negative_eq_false hy,
    decide_eq_false (by omega), Bool.and_false]

end Quotients

/-! ## Shares -/

section Shares

variable {k k' n : Nat}

theorem share_eq_ofMagnitude (hn : 0 < n) (hk : k ≤ n) (finite : (ofNat n).isFinite = true) :
    ofNat k / ofNat n = ofMagnitude false ((ofNat k).absExact / (ofNat n).absExact) := by
  rw [isFinite, decide_eq_true_eq] at finite
  have pos := magnitude_ofNat_pos hn
  have le := magnitude_ofNat_mono hk
  have infinite_k : (ofNat k).isInfinite = false := beq_false_of_ne (by omega)
  have infinite_n : (ofNat n).isInfinite = false := beq_false_of_ne (by omega)
  have zero_n : (ofNat n).isZero = false := beq_false_of_ne (by omega)
  show Double.div _ _ = _
  simp [Double.div, onNumbers, isNaN_ofNat, negative_ofNat, infinite_k, infinite_n, zero_n]

/-- A count that rounds to infinity leaves no share, or none that is defined. -/
theorem share_of_infinite (infinite : (ofNat n).isFinite = false) :
    ofNat k / ofNat n = if (ofNat k).isInfinite then invalid else zero false := by
  rw [isFinite, decide_eq_false_iff_not] at infinite
  have bound := roundMagnitude_le n 1
  rw [← magnitude_ofNat] at bound
  have infinite_n : (ofNat n).isInfinite = true := beq_iff_eq.mpr (by omega)
  show Double.div _ _ = _
  simp [Double.div, onNumbers, isNaN_ofNat, negative_ofNat, infinite_n]

/-- A larger part has no smaller share. -/
theorem share_mono (hn : 0 < n) (h : k ≤ k') (hk' : k' ≤ n) :
    (ofNat k' / ofNat n).lt (ofNat k / ofNat n) = false := by
  cases finite : (ofNat n).isFinite with
  | true =>
      rw [share_eq_ofMagnitude hn hk' finite, share_eq_ofMagnitude hn (h.trans hk') finite]
      refine lt_eq_false_of_magnitude_le (negative_ofMagnitude _ _) (negative_ofMagnitude _ _)
        (magnitude_ofMagnitude_mono ?_ ?_)
      · exact div_nonneg (dyadic_scaled_nonneg _) (dyadic_scaled_nonneg _)
      · exact div_le_div_of_nonneg_right (absExact_mono (magnitude_ofNat_mono h))
          (dyadic_scaled_nonneg _)
  | false =>
      -- zero or undefined on either side, and zero is not less than itself
      rw [share_of_infinite finite, share_of_infinite finite]
      split <;> split <;> decide

theorem share_self (hn : 0 < n) (finite : (ofNat n).isFinite = true) :
    ofNat n / ofNat n = ofNat 1 := by
  have pos : 0 < (ofNat n).absExact := dyadic_scaled_pos (magnitude_ofNat_pos hn)
  rw [share_eq_ofMagnitude hn le_rfl finite, div_self pos.ne']
  rfl

/-- A share is not less than zero and not more than one. -/
theorem share_bounds (hn : 0 < n) (hk : k ≤ n) :
    (ofNat k / ofNat n).lt (ofNat 0) = false ∧ (ofNat 1).lt (ofNat k / ofNat n) = false := by
  cases finite : (ofNat n).isFinite with
  | true =>
      constructor
      · rw [share_eq_ofMagnitude hn hk finite]
        refine lt_eq_false_of_magnitude_le (negative_ofNat 0) (negative_ofMagnitude _ _) ?_
        rw [magnitude_ofNat]
        exact Nat.zero_le _
      · rw [← share_self hn finite]
        exact share_mono hn hk le_rfl
  | false =>
      rw [share_of_infinite finite]
      split <;> decide

theorem share_isNaN (hn : 0 < n) (hk : k ≤ n) (word : n < 2 ^ 64) :
    (ofNat k / ofNat n).isNaN = false := by
  rw [share_eq_ofMagnitude hn hk (isFinite_ofNat word)]
  exact isNaN_ofMagnitude _ _

end Shares

end Speedup.Double
