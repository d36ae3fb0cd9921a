import Speedup.Proofs.Double.Exact

/-!
# Finite doubles as rational numbers

A finite double stands for a rational number (`toRat`), in the order of places (`toRat_mono`).
Rounding a rational number that lies between two finite doubles gives a double between them
(`place_ofRat_between`), so operations on finite doubles are understood by their exact results.
A rounded number that is halved, or more, and rounded again is not larger than the number itself,
although each rounding may go up (`ofBits_toBits_div_le`).
-/

namespace Speedup.Double

variable {x y : Double} {r r' : ℚ}

def toRat (x : Double) : ℚ := if x.negative then -x.absExact else x.absExact

/-- The distance from zero that magnitude bits stand for. -/
def ofBits (M : Nat) : ℚ := dyadic (scaled M).1 (scaled M).2

/-- The magnitude bits nearest to a distance from zero. -/
def toBits (r : ℚ) : Nat := roundMagnitude r.num.natAbs r.den

theorem value?_of_isFinite (h : x.isFinite = true) : x.value? = some x.toRat := by
  rw [value?, if_pos h]
  rfl

theorem absExact_eq (x : Double) : x.absExact = ofBits x.magnitude := rfl

theorem isFinite_iff : x.isFinite = true ↔ x.magnitude < infinityBits := decide_eq_true_iff

theorem isNaN_of_isFinite (h : x.isFinite = true) : x.isNaN = false :=
  decide_eq_false (isFinite_iff.mp h).not_gt

/-! ## Distances from zero -/

theorem ofBits_mono {M M' : Nat} (h : M ≤ M') : ofBits M ≤ ofBits M' := dyadic_scaled_mono h

theorem ofBits_nonneg (M : Nat) : 0 ≤ ofBits M := dyadic_scaled_nonneg M

theorem ofBits_zero : ofBits 0 = 0 := by decide

theorem toBits_le (r : ℚ) : toBits r ≤ infinityBits := roundMagnitude_le _ _

theorem toBits_mono (nonneg : 0 ≤ r) (h : r ≤ r') : toBits r ≤ toBits r' := by
  have mono := magnitude_ofMagnitude_mono (s := false) nonneg h
  rwa [magnitude_ofMagnitude, magnitude_ofMagnitude] at mono

theorem toBits_neg (r : ℚ) : toBits (-r) = toBits r := by
  rw [toBits, toBits, Rat.num_neg_eq_neg_num, Int.natAbs_neg, Rat.den_neg_eq_den]

theorem toBits_abs (r : ℚ) : toBits |r| = toBits r := by
  rcases abs_choice r with same | same
  · rw [same]
  · rw [same, toBits_neg]

theorem toBits_zero : toBits 0 = 0 := rfl

/-- Finite bits are the nearest ones to what they stand for. -/
theorem toBits_ofBits {M : Nat} (finite : M < infinityBits) : toBits (ofBits M) = M := by
  rcases M.eq_zero_or_pos with rfl | positive
  · rw [ofBits_zero, toBits_zero]
  · refine roundMagnitude_of_exact (Rat.den_pos _) positive finite ?_
    have natAbs : ((ofBits M).num.natAbs : ℚ) = (ofBits M).num := by
      rw [← Int.cast_natCast, Int.natCast_natAbs,
        abs_of_nonneg (Rat.num_nonneg.mpr (ofBits_nonneg M))]
    rw [natAbs, Rat.num_div_den, ofBits, dyadic_eq]

/-- The next number is at most twice as far from zero. -/
theorem ofBits_succ_le {M : Nat} (h : 0 < M) : ofBits (M + 1) ≤ 2 * ofBits M := by
  rw [ofBits, ofBits, dyadic_scaled, dyadic_scaled]
  have field : exponentField M = max (M / 2 ^ 52) 1 := rfl
  have field' : exponentField (M + 1) = max ((M + 1) / 2 ^ 52) 1 := rfl
  generalize exponentField M = e at field ⊢
  generalize exponentField (M + 1) = e' at field' ⊢
  have step : e' = e ∨ e' = e + 1 ∧ M + 1 = (e + 1) * 2 ^ 52 := by omega
  rcases step with rfl | ⟨rfl, carry⟩
  · have mantissa : M + 1 - (e' - 1) * 2 ^ 52 ≤ 2 * (M - (e' - 1) * 2 ^ 52) := by omega
    calc ((M + 1 - (e' - 1) * 2 ^ 52 : Nat) : ℚ) * 2 ^ ((e' : Int) - 1075)
        ≤ ((2 * (M - (e' - 1) * 2 ^ 52) : Nat) : ℚ) * 2 ^ ((e' : Int) - 1075) := by gcongr
      _ = 2 * (((M - (e' - 1) * 2 ^ 52 : Nat) : ℚ) * 2 ^ ((e' : Int) - 1075)) := by
          push_cast
          ring
  · have full : M - (e - 1) * 2 ^ 52 = 2 ^ 53 - 1 := by omega
    have next : M + 1 - (e + 1 - 1) * 2 ^ 52 = 2 ^ 52 := by omega
    have exponent : ((e + 1 : Nat) : Int) - 1075 = ((e : Int) - 1075) + 1 := by omega
    rw [full, next, exponent, zpow_add_one₀ two_ne_zero]
    have power : (0 : ℚ) < 2 ^ ((e : Int) - 1075) := by positivity
    push_cast
    nlinarith

/-- A number that is rounded, divided by two or more and rounded again becomes no larger, although
each rounding may go up: there is a double below the first rounded one, and half of that one is
not above this double. -/
theorem ofBits_toBits_div_le (nonneg : 0 ≤ r) (finite : toBits r < infinityBits) {n : ℚ}
    (hn : 2 ≤ n) : ofBits (toBits (ofBits (toBits r) / n)) ≤ r := by
  have half (M : Nat) : ofBits M / n ≤ ofBits M / 2 :=
    div_le_div_of_nonneg_left (ofBits_nonneg M) two_pos hn
  have quotient (M : Nat) : 0 ≤ ofBits M / n :=
    div_nonneg (ofBits_nonneg M) (two_pos.le.trans hn)
  cases rounded : toBits r with
  | zero =>
      rw [ofBits_zero, zero_div, toBits_zero, ofBits_zero]
      exact nonneg
  | succ below =>
      rcases below.eq_zero_or_pos with rfl | positive
      · -- half of the least double is a tie with zero, which is even
        have none_left : toBits (ofBits 1 / n) ≤ 0 :=
          (toBits_mono (quotient 1) (half 1)).trans (by decide +kernel)
        rw [Nat.le_zero.mp none_left, ofBits_zero]
        exact nonneg
      · have exact : toBits (ofBits below) = below := toBits_ofBits (by omega)
        -- a number under the double below would not have been rounded up past it
        have le : ofBits below ≤ r := by
          by_contra above
          have := toBits_mono nonneg (not_le.mp above).le
          omega
        have down : ofBits (below + 1) / n ≤ ofBits below := by
          refine (half _).trans ?_
          have := ofBits_succ_le positive
          linarith
        have bits := toBits_mono (quotient _) down
        rw [exact] at bits
        exact (ofBits_mono bits).trans le

/-! ## Places -/

theorem zero_lt_iff : Double.lt 0 x = true ↔ x.isNaN = false ∧ 0 < x.place := by
  have zero : (0 : Double).place = 0 := by decide
  have number : (0 : Double).isNaN = false := by decide
  rw [lt_iff_place, zero]
  exact and_iff_right number

theorem natAbs_place (x : Double) : x.place.natAbs = x.magnitude := by
  rw [place]
  split <;> simp

theorem isFinite_iff_place : x.isFinite = true ↔ x.place.natAbs < infinityBits := by
  rw [natAbs_place, isFinite_iff]

theorem toRat_eq_of_place_nonneg (h : 0 ≤ x.place) : x.toRat = ofBits x.magnitude := by
  unfold place at h
  unfold toRat
  split at h
  next negative =>
    have zero : x.magnitude = 0 := by omega
    rw [if_pos negative, absExact_eq, zero, ofBits_zero, neg_zero]
  next positive => rw [if_neg positive, absExact_eq]

theorem toRat_eq_of_place_nonpos (h : x.place ≤ 0) : x.toRat = -ofBits x.magnitude := by
  unfold place at h
  unfold toRat
  split at h
  next negative => rw [if_pos negative, absExact_eq]
  next positive =>
    have zero : x.magnitude = 0 := by omega
    rw [if_neg positive, absExact_eq, zero, ofBits_zero, neg_zero]

theorem toRat_nonneg (h : 0 ≤ x.place) : 0 ≤ x.toRat := by
  rw [toRat_eq_of_place_nonneg h]
  exact ofBits_nonneg _

theorem toRat_nonpos (h : x.place ≤ 0) : x.toRat ≤ 0 := by
  rw [toRat_eq_of_place_nonpos h]
  exact neg_nonpos_of_nonneg (ofBits_nonneg _)

theorem toRat_mono (h : x.place ≤ y.place) : x.toRat ≤ y.toRat := by
  have hx := natAbs_place x
  have hy := natAbs_place y
  rcases le_total 0 x.place with px | nx
  · rw [toRat_eq_of_place_nonneg px, toRat_eq_of_place_nonneg (px.trans h)]
    exact ofBits_mono (by omega)
  · rcases le_total 0 y.place with py | ny
    · exact (toRat_nonpos nx).trans (toRat_nonneg py)
    · rw [toRat_eq_of_place_nonpos nx, toRat_eq_of_place_nonpos ny]
      exact neg_le_neg (ofBits_mono (by omega))

theorem toRat_congr (h : x.place = y.place) : x.toRat = y.toRat :=
  le_antisymm (toRat_mono h.le) (toRat_mono h.ge)

theorem place_ofMagnitude (negative : Bool) (r : ℚ) :
    (ofMagnitude negative r).place = if negative then -(toBits r : Int) else toBits r := by
  rw [place, negative_ofMagnitude, magnitude_ofMagnitude]
  rfl

/-- Rounding keeps order, also across zero. -/
theorem place_ofRat_mono (h : r ≤ r') : (ofRat r).place ≤ (ofRat r').place := by
  rw [ofRat, ofRat, place_ofMagnitude, place_ofMagnitude]
  by_cases neg : r < 0
  · by_cases neg' : r' < 0
    · have mono := toBits_mono (neg_nonneg.mpr neg'.le) (neg_le_neg h)
      rw [toBits_neg, toBits_neg] at mono
      simp only [neg, neg', decide_true, if_true]
      omega
    · simp only [neg, neg', decide_true, decide_false, if_true]
      simp
  · have neg' : ¬ r' < 0 := fun neg' => neg (h.trans_lt neg')
    have mono := toBits_mono (not_lt.mp neg) h
    simp only [neg, neg', decide_false]
    simpa using mono

/-- A finite double is the nearest one to what it stands for. -/
theorem place_ofRat_toRat (finite : x.isFinite = true) : (ofRat x.toRat).place = x.place := by
  rw [isFinite_iff] at finite
  have hx := natAbs_place x
  rw [ofRat, place_ofMagnitude]
  rcases le_total 0 x.place with pos | neg
  · have nonneg : ¬ x.toRat < 0 := not_lt.mpr (toRat_nonneg pos)
    rw [toRat_eq_of_place_nonneg pos] at nonneg ⊢
    rw [toBits_ofBits finite]
    simp only [nonneg, decide_false]
    simp
    omega
  · rw [toRat_eq_of_place_nonpos neg, toBits_neg, toBits_ofBits finite]
    rcases x.magnitude.eq_zero_or_pos with zero | positive
    · simp [zero]
      omega
    · have below : -ofBits x.magnitude < 0 := neg_neg_of_pos (dyadic_scaled_pos positive)
      simp only [below, decide_true, if_true]
      omega

/-- What lies between finite doubles is rounded to a double between them. -/
theorem place_ofRat_between (hx : x.isFinite = true) (hy : y.isFinite = true)
    (low : x.toRat ≤ r) (high : r ≤ y.toRat) :
    x.place ≤ (ofRat r).place ∧ (ofRat r).place ≤ y.place := by
  constructor
  · rw [← place_ofRat_toRat hx]
    exact place_ofRat_mono low
  · rw [← place_ofRat_toRat hy]
    exact place_ofRat_mono high

theorem isFinite_of_between {z : Double} (hx : x.isFinite = true) (hy : y.isFinite = true)
    (low : x.place ≤ z.place) (high : z.place ≤ y.place) : z.isFinite = true := by
  rw [isFinite_iff_place] at hx hy ⊢
  omega

/-! ## Sums and differences -/

theorem place_zero (negative : Bool) : (zero negative).place = 0 := by
  cases negative <;> decide

theorem place_ofRat_zero : (ofRat 0).place = 0 := rfl

/-- A sum of finite doubles has the place of the rounded exact sum. -/
theorem place_add (hx : x.isFinite = true) (hy : y.isFinite = true) :
    (x + y).place = (ofRat (x.toRat + y.toRat)).place := by
  show (Double.add x y).place = _
  simp only [Double.add, onNumbers, isNaN_of_isFinite hx, isNaN_of_isFinite hy,
    value?_of_isFinite hx, value?_of_isFinite hy, Bool.false_eq_true, if_false]
  split
  next sum_zero =>
    rw [place_zero, sum_zero, place_ofRat_zero]
  next => rfl

theorem negative_neg (x : Double) : x.neg.negative = !x.negative :=
  negative_ofParts (magnitude_lt x)

theorem magnitude_neg (x : Double) : x.neg.magnitude = x.magnitude :=
  magnitude_ofParts (magnitude_lt x)

theorem place_neg (x : Double) : x.neg.place = -x.place := by
  rw [place, place, negative_neg, magnitude_neg]
  cases x.negative <;> simp

theorem isFinite_neg (x : Double) : x.neg.isFinite = x.isFinite := by
  rw [isFinite, isFinite, magnitude_neg]

theorem isNaN_neg (x : Double) : x.neg.isNaN = x.isNaN := by
  rw [isNaN, isNaN, magnitude_neg]

theorem toRat_neg (x : Double) : x.neg.toRat = -x.toRat := by
  have place := place_neg x
  rcases le_total 0 x.place with pos | neg
  · rw [toRat_eq_of_place_nonneg pos, toRat_eq_of_place_nonpos (by omega), magnitude_neg]
  · rw [toRat_eq_of_place_nonpos neg, toRat_eq_of_place_nonneg (by omega), magnitude_neg, neg_neg]

theorem sub_eq_add_of_numbers (hx : x.isNaN = false) (hy : y.isNaN = false) :
    x - y = x + y.neg := by
  show Double.sub x y = _
  simp only [Double.sub, onNumbers, hx, hy, Bool.false_eq_true, if_false]
  rfl

theorem place_sub (hx : x.isFinite = true) (hy : y.isFinite = true) :
    (x - y).place = (ofRat (x.toRat - y.toRat)).place := by
  rw [sub_eq_add_of_numbers (isNaN_of_isFinite hx) (isNaN_of_isFinite hy),
    place_add hx ((isFinite_neg y).trans hy), toRat_neg, ← sub_eq_add_neg]

theorem isNaN_iff_place : x.isNaN = true ↔ infinityBits < x.place.natAbs := by
  rw [natAbs_place, isNaN, decide_eq_true_eq]

theorem natAbs_place_ofRat (r : ℚ) : (ofRat r).place.natAbs = toBits r := by
  rw [natAbs_place, ofRat, magnitude_ofMagnitude]
  rfl

/-- A sum of finite doubles may overflow, but it is a number. -/
theorem isNaN_add (hx : x.isFinite = true) (hy : y.isFinite = true) : (x + y).isNaN = false := by
  rw [← Bool.not_eq_true, isNaN_iff_place, place_add hx hy, natAbs_place_ofRat, not_lt]
  exact toBits_le _

theorem isFinite_sub_iff (hx : x.isFinite = true) (hy : y.isFinite = true) :
    (x - y).isFinite = true ↔ toBits (x.toRat - y.toRat) < infinityBits := by
  rw [isFinite_iff_place, place_sub hx hy, natAbs_place_ofRat]

/-- Numbers in a range of finite width have a finite distance. -/
theorem isFinite_sub_of_range {low high : Double} (hl : low.isFinite = true)
    (hh : high.isFinite = true) (width : (high - low).isFinite = true)
    (hx : low.place ≤ x.place ∧ x.place ≤ high.place)
    (hy : low.place ≤ y.place ∧ y.place ≤ high.place) : (x - y).isFinite = true := by
  rw [isFinite_sub_iff hh hl] at width
  rw [isFinite_sub_iff (isFinite_of_between hl hh hx.1 hx.2) (isFinite_of_between hl hh hy.1 hy.2),
    ← toBits_abs]
  refine (toBits_mono (abs_nonneg _) ?_).trans_lt width
  have low_x := toRat_mono hx.1
  have low_y := toRat_mono hy.1
  have high_x := toRat_mono hx.2
  have high_y := toRat_mono hy.2
  rw [abs_le]
  constructor
  · linarith
  · linarith

/-- Only a finite double has a finite distance to itself. -/
theorem isFinite_of_sub_self (h : (x - x).isFinite = true) : x.isFinite = true := by
  by_contra infinite
  have number : x.isNaN = false := by
    cases undefined : x.isNaN with
    | false => rfl
    | true =>
        have same : x - x = x := by
          show Double.sub x x = x
          simp [Double.sub, onNumbers, undefined]
        rw [same] at h
        exact absurd h infinite
  have value : x.value? = none := if_neg infinite
  have value' : x.neg.value? = none := if_neg (by rw [isFinite_neg]; exact infinite)
  have nothing : x - x = invalid := by
    rw [sub_eq_add_of_numbers number number]
    show Double.add x x.neg = _
    have other : ¬ x.negative = x.neg.negative := by simp [negative_neg]
    simp [Double.add, onNumbers, number, isNaN_neg, value, value', other]
  rw [nothing] at h
  cases h

/-! ## Shares of a double -/

variable {k : Nat}

/-- A count that is no double any more leaves nothing of a finite one. -/
theorem div_count_eq (hy : y.isFinite = true) (hk : 0 < k) : y / ofNat k =
    if (ofNat k).isFinite then
      ofMagnitude y.negative (ofBits y.magnitude / ofBits (ofNat k).magnitude)
    else zero y.negative := by
  have number := isNaN_of_isFinite hy
  have finite : y.isInfinite = false := beq_false_of_ne (isFinite_iff.mp hy).ne
  have not_zero : (ofNat k).isZero = false := beq_false_of_ne (magnitude_ofNat_pos hk).ne'
  have infinite : (ofNat k).isInfinite = !(ofNat k).isFinite := by
    have bound := roundMagnitude_le k 1
    rw [← magnitude_ofNat] at bound
    rw [isInfinite, isFinite, Bool.eq_iff_iff]
    simp only [beq_iff_eq, Bool.not_eq_true', decide_eq_false_iff_not]
    omega
  show Double.div y (ofNat k) = _
  cases word : (ofNat k).isFinite <;>
    simp [Double.div, onNumbers, number, finite, not_zero, infinite, word, isNaN_ofNat,
      negative_ofNat, absExact_eq]

theorem magnitude_div_count (hy : y.isFinite = true) (hk : 0 < k) : (y / ofNat k).magnitude =
    if (ofNat k).isFinite then toBits (ofBits y.magnitude / ofBits (ofNat k).magnitude)
    else 0 := by
  rw [div_count_eq hy hk]
  split
  · exact magnitude_ofMagnitude _ _
  · exact magnitude_ofParts (by decide)

theorem negative_div_count (hy : y.isFinite = true) (hk : 0 < k) :
    (y / ofNat k).negative = y.negative := by
  rw [div_count_eq hy hk]
  split
  · exact negative_ofMagnitude _ _
  · exact negative_ofParts (by decide)

theorem magnitude_div_count_of_zero (hy : y.isFinite = true) (hk : 0 < k)
    (zero : y.magnitude = 0) : (y / ofNat k).magnitude = 0 := by
  rw [magnitude_div_count hy hk, zero, ofBits_zero, zero_div, toBits_zero, ite_self]

/-- A share has the sign of what is shared. -/
theorem place_div_count_sign (hy : y.isFinite = true) (hk : 0 < k) :
    (0 ≤ y.place → 0 ≤ (y / ofNat k).place) ∧ (y.place ≤ 0 → (y / ofNat k).place ≤ 0) := by
  have zero := magnitude_div_count_of_zero hy hk
  rw [place, place, negative_div_count hy hk]
  split <;> omega

theorem place_ofRat_nonneg (h : 0 ≤ r) : 0 ≤ (ofRat r).place :=
  le_of_eq_of_le place_ofRat_zero.symm (place_ofRat_mono h)

theorem place_ofRat_nonpos (h : r ≤ 0) : (ofRat r).place ≤ 0 :=
  (place_ofRat_mono h).trans_eq place_ofRat_zero

theorem ofBits_one : ofBits (ofNat 1).magnitude = 1 := by decide

theorem one_le_ofBits_count (hk : 0 < k) : 1 ≤ ofBits (ofNat k).magnitude :=
  le_of_eq_of_le ofBits_one.symm (ofBits_mono (magnitude_ofNat_mono hk))

theorem two_le_ofBits_count (hk : 2 ≤ k) : 2 ≤ ofBits (ofNat k).magnitude :=
  le_of_eq_of_le (by decide : 2 = ofBits (ofNat 2).magnitude)
    (ofBits_mono (magnitude_ofNat_mono hk))

theorem magnitude_div_count_le (hy : y.isFinite = true) (hk : 0 < k) :
    (y / ofNat k).magnitude ≤ y.magnitude := by
  have one := one_le_ofBits_count hk
  rw [magnitude_div_count hy hk]
  split
  · have bits := toBits_mono (div_nonneg (ofBits_nonneg y.magnitude) (zero_le_one.trans one))
      (div_le_self (ofBits_nonneg y.magnitude) one)
    rwa [toBits_ofBits (isFinite_iff.mp hy)] at bits
  · exact Nat.zero_le _

theorem isFinite_div_count (hy : y.isFinite = true) (hk : 0 < k) :
    (y / ofNat k).isFinite = true :=
  isFinite_iff.mpr ((magnitude_div_count_le hy hk).trans_lt (isFinite_iff.mp hy))

/-- What is shared by a count that is a double stays a number. -/
theorem isNaN_div_count (hy : y.isNaN = false) (hk : 0 < k) (word : (ofNat k).isFinite = true) :
    (y / ofNat k).isNaN = false := by
  cases infinite : y.isInfinite with
  | true =>
      have bounded : (ofNat k).isInfinite = false := beq_false_of_ne (isFinite_iff.mp word).ne
      have quotient : y / ofNat k = infinity y.negative := by
        show Double.div y (ofNat k) = _
        simp [Double.div, onNumbers, hy, isNaN_ofNat, infinite, bounded, negative_ofNat]
      rw [quotient]
      cases y.negative <;> decide
  | false =>
      refine isNaN_of_isFinite (isFinite_div_count ?_ hk)
      rw [isNaN, decide_eq_false_iff_not, not_lt] at hy
      exact isFinite_iff.mpr (lt_of_le_of_ne hy (ne_of_beq_false infinite))

theorem place_div_one (hy : y.isFinite = true) : (y / ofNat 1).place = y.place := by
  rw [place, place, negative_div_count hy one_pos, magnitude_div_count hy one_pos,
    if_pos (isFinite_ofNat (by norm_num)), ofBits_one, div_one,
    toBits_ofBits (isFinite_iff.mp hy)]

/-- A share of a rounded number, if there is more than one, is no farther from zero than the
number itself. -/
theorem ofBits_div_count_le (hy : y.isFinite = true) (nonneg : 0 ≤ r)
    (rounded : y.magnitude = toBits r) (hk : 2 ≤ k) :
    ofBits (y / ofNat k).magnitude ≤ r := by
  have finite : toBits r < infinityBits := by rwa [isFinite_iff, rounded] at hy
  rw [magnitude_div_count hy (two_pos.trans_le hk), rounded]
  split
  · exact ofBits_toBits_div_le nonneg finite (two_le_ofBits_count hk)
  · exact ofBits_zero.trans_le nonneg

/-- A share of a rounded number lies between zero and the number. -/
theorem toRat_div_count_between (hy : y.isFinite = true) (rounded : y.place = (ofRat r).place)
    (hk : 2 ≤ k) :
    (0 ≤ r → 0 ≤ (y / ofNat k).toRat ∧ (y / ofNat k).toRat ≤ r) ∧
      (r ≤ 0 → r ≤ (y / ofNat k).toRat ∧ (y / ofNat k).toRat ≤ 0) := by
  have positive : 0 < k := two_pos.trans_le hk
  have bits : y.magnitude = toBits |r| := by
    rw [← natAbs_place, rounded, natAbs_place_ofRat, toBits_abs]
  have le := ofBits_div_count_le hy (abs_nonneg r) bits hk
  constructor
  · intro nonneg
    have sign : 0 ≤ (y / ofNat k).place :=
      (place_div_count_sign hy positive).1 (rounded ▸ place_ofRat_nonneg nonneg)
    rw [abs_of_nonneg nonneg] at le
    exact ⟨toRat_nonneg sign, by rwa [toRat_eq_of_place_nonneg sign]⟩
  · intro nonpos
    have sign : (y / ofNat k).place ≤ 0 :=
      (place_div_count_sign hy positive).2 (rounded ▸ place_ofRat_nonpos nonpos)
    rw [abs_of_nonpos nonpos] at le
    refine ⟨?_, toRat_nonpos sign⟩
    rw [toRat_eq_of_place_nonpos sign]
    exact le_neg.mp le

end Speedup.Double
