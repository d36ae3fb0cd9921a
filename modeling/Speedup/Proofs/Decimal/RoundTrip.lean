import Speedup.Decimal.Style
import Speedup.Proofs.Double.Exact
import Speedup.Proofs.Text.Digits

/-!
# Doubles read back

What is written for a double without an exponent is read as the same double (`parse?_text`). The
shortest digits read back because they were tried, and where the search for them ends without any,
the exact expansion takes their place, which is rounded to the double it is the value of
(`readsBack_shortest`). The layout keeps the digits and the place of the point. Zeros that it puts
behind a whole number are more digits of the same decimal (`toDouble_shift`).
-/

namespace Speedup.Decimal

open Double

/-! ## The double of a decimal -/

section ToDouble

variable {d : Decimal} {s : Bool} {x : Double} {M : Nat}

/-- The number of digits before the point, less the zeros directly behind it. -/
def size (d : Decimal) : Int := (Text.digits d.digits).length + d.exponent

theorem toDouble_eq (s : Bool) (d : Decimal) :
    d.toDouble s = if d.digits = 0 || d.size < -400 then Double.zero s
      else if 400 < d.size then Double.infinity s
      else ofParts s
        (roundMagnitude (d.digits * 10 ^ d.exponent.toNat) (10 ^ (-d.exponent).toNat)) :=
  rfl

/-- The sign has no part in the magnitude. -/
theorem toDouble_sign (s : Bool) (d : Decimal) :
    d.toDouble s = ofParts s (d.toDouble false).magnitude := by
  rw [toDouble_eq, toDouble_eq]
  split
  · rw [Double.zero, Double.zero, magnitude_ofParts (by decide)]
  · split
    · rw [Double.infinity, Double.infinity, magnitude_ofParts (by decide)]
    · rw [magnitude_ofParts (roundMagnitude_lt _ _)]

/-- With the sign of a double, a decimal that reads back is read as the double. -/
theorem toDouble_of_readsBack (h : readsBack x d = true) : d.toDouble x.negative = x := by
  have same : d.toDouble false = x.abs := beq_iff_eq.mp h
  rw [toDouble_sign, same, Double.abs, magnitude_ofParts x.magnitude_lt, ofParts_magnitude]

/-- Zeros at the end of the digits are the same as a larger exponent. -/
theorem toDouble_shift (s : Bool) (n k : Nat) :
    toDouble s ⟨n * 10 ^ k, 0⟩ = toDouble s ⟨n, k⟩ := by
  rcases n.eq_zero_or_pos with rfl | hn
  · rw [Nat.zero_mul, toDouble_eq, toDouble_eq]
    simp only [decide_true, Bool.true_or, if_true]
  · have same : size ⟨n * 10 ^ k, 0⟩ = size ⟨n, k⟩ := by
      simp only [size, Text.length_digits_mul_pow hn]
      push_cast
      ring
    have some : n * 10 ^ k ≠ 0 := by positivity
    simp [toDouble_eq, same, hn.ne']

/-- A decimal of moderate size with the exact value of a double is read as this double. -/
theorem toDouble_of_exact (positive : 0 < M) (finite : M < infinityBits)
    (exact : (d.digits : ℚ) * 10 ^ d.exponent = (scaled M).1 * 2 ^ (scaled M).2)
    (low : -400 ≤ d.size) (high : d.size ≤ 400) : d.toDouble s = ofParts s M := by
  have mantissa_pos : (0 : ℚ) < (scaled M).1 := by exact_mod_cast scaled_fst_pos positive
  have some : d.digits ≠ 0 := by
    intro none
    have value : (0 : ℚ) < (scaled M).1 * 2 ^ (scaled M).2 := by positivity
    rw [← exact, none, Nat.cast_zero, zero_mul] at value
    exact lt_irrefl _ value
  have quotient :
      ((d.digits * 10 ^ d.exponent.toNat : Nat) : ℚ) / (10 ^ (-d.exponent).toNat : Nat) =
      (scaled M).1 * 2 ^ (scaled M).2 := by
    rw [← exact, div_eq_iff (by positivity)]
    push_cast
    rw [← zpow_mul_toNat (by norm_num : (10 : ℚ) ≠ 0) d.exponent]
    ring
  rw [toDouble_eq, if_neg (by simp [some, low]), if_neg (by omega),
    roundMagnitude_of_exact (by positivity) positive finite quotient]

end ToDouble

/-! ## The digits of a double -/

section Shortest

variable {x : Double} {M : Nat}

theorem expansion_eq (x : Double) : expansion x =
    if 0 ≤ (scaled x.magnitude).2 then
      ⟨(scaled x.magnitude).1 <<< (scaled x.magnitude).2.toNat, 0⟩
    else ⟨(scaled x.magnitude).1 * 5 ^ (-(scaled x.magnitude).2).toNat, (scaled x.magnitude).2⟩ :=
  rfl

theorem expansion_exact (x : Double) : ((expansion x).digits : ℚ) * 10 ^ (expansion x).exponent =
    (scaled x.magnitude).1 * 2 ^ (scaled x.magnitude).2 := by
  rw [expansion_eq]
  generalize scaled x.magnitude = parts
  obtain ⟨m, q⟩ := parts
  split
  next whole =>
    lift q to ℕ using whole
    simp [Nat.shiftLeft_eq]
  next fraction =>
    obtain ⟨k, rfl⟩ : ∃ k : ℕ, q = -k := ⟨(-q).toNat, by dsimp only at fraction; omega⟩
    have ten : (10 : ℚ) ^ k = 5 ^ k * 2 ^ k := by rw [← mul_pow]; norm_num
    simp only [neg_neg, Int.toNat_natCast, zpow_neg, zpow_natCast, Nat.cast_mul, Nat.cast_pow,
      Nat.cast_ofNat, ten]
    field_simp

/-- Three doublings are less than a factor of ten. -/
theorem two_pow_le {k j : Nat} (h : k ≤ 3 * j) : 2 ^ k ≤ 10 ^ j :=
  calc 2 ^ k ≤ 2 ^ (3 * j) := Nat.pow_le_pow_right (by decide) h
    _ = 8 ^ j := Nat.pow_mul 2 3 j
    _ ≤ 10 ^ j := Nat.pow_le_pow_left (by decide) j

theorem size_whole {m q : Nat} (some : 0 < m) (mantissa : m < 2 ^ 53) (greatest : q < 972) :
    0 ≤ size ⟨m <<< q, 0⟩ ∧ size ⟨m <<< q, 0⟩ ≤ 400 := by
  have bound : m <<< q < 10 ^ 400 := by
    rw [Nat.shiftLeft_eq]
    calc m * 2 ^ q < 2 ^ 53 * 2 ^ q := Nat.mul_lt_mul_of_pos_right mantissa (Nat.two_pow_pos q)
      _ = 2 ^ (53 + q) := (Nat.pow_add 2 53 q).symm
      _ ≤ 10 ^ 400 := two_pow_le (by omega)
  have length := (Text.length_digits_le_iff (shiftLeft_pos some q)).mpr bound
  clear bound
  simp only [size]
  omega

/-- A power of five has not many digits less than one of ten with the same exponent. -/
theorem ten_pow_sub_le {k j : Nat} (h : k ≤ 3 * j) : 10 ^ (k - j) ≤ 5 ^ k := by
  rcases le_total k j with few | many
  · rw [Nat.sub_eq_zero_of_le few]
    exact Nat.one_le_pow _ _ (by decide)
  · obtain ⟨i, rfl⟩ := Nat.exists_eq_add_of_le' many
    refine Nat.le_of_mul_le_mul_right ?_ (Nat.pow_pos (by decide) : 0 < 10 ^ j)
    calc 10 ^ (i + j - j) * 10 ^ j = (5 * 2) ^ (i + j) := by
          rw [Nat.add_sub_cancel, ← Nat.pow_add]
      _ = 5 ^ (i + j) * 2 ^ (i + j) := Nat.mul_pow 5 2 _
      _ ≤ 5 ^ (i + j) * 10 ^ j := Nat.mul_le_mul_left _ (two_pow_le h)

theorem mul_five_pow_lt {m k j : Nat} (small : m < 10 ^ j) : m * 5 ^ k < 10 ^ (j + k) := by
  rw [Nat.pow_add]
  exact Nat.mul_lt_mul_of_lt_of_le small (Nat.pow_le_pow_left (by decide) k)
    (Nat.pow_pos (by decide))

theorem size_fraction {m k : Nat} (some : 0 < m) (mantissa : m < 2 ^ 53) (least : k ≤ 1074) :
    -400 ≤ size ⟨m * 5 ^ k, -k⟩ ∧ size ⟨m * 5 ^ k, -k⟩ ≤ 400 := by
  have positive : 0 < m * 5 ^ k := Nat.mul_pos some (Nat.pow_pos (by decide))
  have upper : m * 5 ^ k < 10 ^ (400 + k) :=
    mul_five_pow_lt (Nat.lt_of_lt_of_le mantissa (two_pow_le (by omega)))
  have lower : ¬ m * 5 ^ k < 10 ^ (k - 401) :=
    Nat.not_lt.mpr ((ten_pow_sub_le (by omega)).trans (Nat.le_mul_of_pos_left _ some))
  have long := (Text.length_digits_le_iff positive).not.mpr lower
  have short := (Text.length_digits_le_iff positive).mpr upper
  clear upper lower
  simp only [size]
  omega

/-- The exponents of doubles are not so large that the size of an expansion could decide. -/
theorem size_expansion (positive : 0 < x.magnitude) (finite : x.magnitude < infinityBits) :
    -400 ≤ (expansion x).size ∧ (expansion x).size ≤ 400 := by
  have some := scaled_fst_pos positive
  have mantissa := scaled_fst_lt x.magnitude
  have least := (magnitude_eq x.magnitude).1
  have greatest := scaled_snd_lt finite
  rw [expansion_eq]
  generalize scaled x.magnitude = parts at some mantissa least greatest
  obtain ⟨m, q⟩ := parts
  dsimp only at some mantissa least greatest ⊢
  split
  next whole =>
    lift q to ℕ using whole
    obtain ⟨low, high⟩ := size_whole some mantissa (by omega : q < 972)
    exact ⟨le_trans (by decide) low, high⟩
  next fraction =>
    obtain ⟨k, rfl⟩ : ∃ k : ℕ, q = -k := ⟨(-q).toNat, by omega⟩
    rw [neg_neg, Int.toNat_natCast]
    exact size_fraction some mantissa (by omega)

theorem readsBack_expansion (positive : 0 < x.magnitude) (finite : x.magnitude < infinityBits) :
    readsBack x (expansion x) = true := by
  obtain ⟨low, high⟩ := size_expansion positive finite
  exact beq_iff_eq.mpr (toDouble_of_exact positive finite (expansion_exact x) low high)

/-- Whatever the search finds reads back, and so does what it falls back on. -/
theorem readsBack_searchGrids (positive : 0 < x.magnitude) (finite : x.magnitude < infinityBits)
    (count : Nat) (j : Int) : readsBack x (searchGrids x count j) = true := by
  induction count generalizing j with
  | zero => exact readsBack_expansion positive finite
  | succ count ih =>
      rw [searchGrids]
      split
      next found => exact readsBack_of_gridPoint? found
      next => exact ih (j - 1)

theorem readsBack_shortest (positive : 0 < x.magnitude) (finite : x.magnitude < infinityBits) :
    readsBack x (shortest x) = true := by
  have some := (scaled_fst_pos positive).ne'
  unfold shortest
  generalize scaled x.magnitude = parts at some ⊢
  dsimp only
  rw [if_neg some]
  exact readsBack_searchGrids positive finite _ _

end Shortest

/-! ## Numerals -/

theorem splitSign_of_isDigit {c : Char} (digit : c.isDigit = true) (rest : List Char) :
    splitSign (c :: rest) = (false, c :: rest) := by
  rw [splitSign]
  · rintro _ ⟨⟩
    exact absurd digit (by decide)
  · rintro _ ⟨⟩
    exact absurd digit (by decide)

/-- What begins with a digit is no word. -/
theorem ofList_map_toLower_ne {c : Char} (digit : c.isDigit = true) (rest : List Char) {w : String}
    (letter : ∀ c, w.toList.head? = some c → c.isDigit = false) :
    String.ofList ((c :: rest).map Char.toLower) ≠ w := by
  rintro rfl
  have first := letter c.toLower (by rw [String.toList_ofList]; rfl)
  rw [Text.toLower_of_isDigit digit, digit] at first
  cases first

/-- Digits, with or without a point, as what they are read as. -/
inductive Numeral : List Char → Decimal → Prop where
  | whole {ds : List Char} : ds ≠ [] → (∀ c ∈ ds, c.isDigit = true) →
      Numeral ds ⟨Text.digitsValue 0 ds, 0⟩
  | pointed {ds fraction : List Char} : ds ≠ [] → (∀ c ∈ ds, c.isDigit = true) →
      (∀ c ∈ fraction, c.isDigit = true) →
      Numeral (ds ++ '.' :: fraction) ⟨Text.digitsValue 0 (ds ++ fraction), -fraction.length⟩

namespace Numeral

variable {cs : List Char} {d : Decimal}

theorem read?_eq (h : Numeral cs d) : read? cs = some (d, []) := by
  cases h with
  | whole some digits =>
      rw [read?, Text.spanDigits_of_isDigit digits]
      simp [some]
  | @pointed ds fraction some digits behind =>
      have front := Text.spanDigits_append_of_isDigit digits ('.' :: fraction)
        (by rintro c ⟨⟩; decide)
      rw [read?, front]
      simp [Text.spanDigits_of_isDigit behind, some]

theorem exists_cons (h : Numeral cs d) : ∃ c rest, cs = c :: rest ∧ c.isDigit = true := by
  cases h with
  | whole some digits =>
      cases cs with
      | nil => exact absurd rfl some
      | cons c rest => exact ⟨c, rest, rfl, digits c List.mem_cons_self⟩
  | @pointed ds fraction some digits _ =>
      cases ds with
      | nil => exact absurd rfl some
      | cons c rest => exact ⟨c, _, rfl, digits c List.mem_cons_self⟩

theorem isDigit_or_eq (h : Numeral cs d) {c : Char} (hc : c ∈ cs) : c.isDigit = true ∨ c = '.' := by
  cases h with
  | whole _ digits => exact .inl (digits c hc)
  | pointed _ digits behind =>
      rcases List.mem_append.mp hc with front | later
      · exact .inl (digits c front)
      · rcases List.mem_cons.mp later with rfl | back
        · exact .inr rfl
        · exact .inl (behind c back)

theorem parse?_eq (h : Numeral cs d) (negative : Bool) :
    parse? (String.ofList (if negative then '-' :: cs else cs)) = some (d.toDouble negative) := by
  obtain ⟨c, rest, rfl, digit⟩ := h.exists_cons
  have sign : splitSign (if negative then '-' :: c :: rest else c :: rest) =
      (negative, c :: rest) := by
    cases negative with
    | true => rfl
    | false => exact splitSign_of_isDigit digit rest
  have inf := ofList_map_toLower_ne digit rest (w := "inf") (by rintro c ⟨⟩; decide)
  have infinity := ofList_map_toLower_ne digit rest (w := "infinity") (by rintro c ⟨⟩; decide)
  have nan := ofList_map_toLower_ne digit rest (w := "nan") (by rintro c ⟨⟩; decide)
  rw [parse?, String.toList_ofList, sign]
  dsimp only
  rw [decide_eq_false inf, decide_eq_false infinity, Bool.or_self, if_neg Bool.false_ne_true,
    if_neg nan, h.read?_eq]

end Numeral

/-! ## The layout -/

section Layout

variable {ds : List Char} {e : Int} (digits : ∀ c ∈ ds, c.isDigit = true)

include digits

/-- The point in front of all digits: a zero before it, and further ones behind it. -/
theorem numeral_of_le (before : (ds.length : Int) + e ≤ 0) :
    Numeral ('0' :: '.' :: (List.replicate (-(ds.length + e)).toNat '0' ++ ds))
      ⟨Text.digitsValue 0 ds, e⟩ := by
  have zero : ∀ c ∈ ['0'], c.isDigit = true := List.forall_mem_singleton.mpr rfl
  have behind : ∀ c ∈ List.replicate (-(ds.length + e)).toNat '0' ++ ds, c.isDigit = true := by
    intro c hc
    rcases List.mem_append.mp hc with zero | digit
    · exact Text.isDigit_of_mem_replicate zero
    · exact digits c digit
  have zeros : Text.digitsValue 0 ['0'] = 0 := by decide
  have places : -((List.replicate (-(ds.length + e)).toNat '0' ++ ds).length : Int) = e := by
    rw [List.length_append, List.length_replicate]
    omega
  have numeral := Numeral.pointed (List.cons_ne_nil '0' []) zero behind
  rwa [Text.digitsValue_append, Text.digitsValue_append, zeros, Text.digitsValue_replicate,
    Nat.zero_mul, places] at numeral

/-- The point between two digits. -/
theorem numeral_of_lt (after : 0 < (ds.length : Int) + e)
    (inside : (ds.length : Int) + e < ds.length) :
    Numeral (ds.take (ds.length + e).toNat ++ '.' :: ds.drop (ds.length + e).toNat)
      ⟨Text.digitsValue 0 ds, e⟩ := by
  have some : ds.take (ds.length + e).toNat ≠ [] := by
    rw [ne_eq, List.take_eq_nil_iff]
    rintro (none | rfl)
    · omega
    · simp only [List.length_nil] at after inside
      omega
  have places : -((ds.drop (ds.length + e).toNat).length : Int) = e := by
    rw [List.length_drop]
    omega
  have behind : ∀ c ∈ ds.drop (ds.length + e).toNat, c.isDigit = true :=
    fun c hc => digits c (List.mem_of_mem_drop hc)
  have numeral := Numeral.pointed some (fun c hc => digits c (List.mem_of_mem_take hc)) behind
  rwa [List.take_append_drop, places] at numeral

theorem numeral_append_replicate (some : ds ≠ []) (k : Nat) :
    Numeral (ds ++ List.replicate k '0') ⟨Text.digitsValue 0 ds * 10 ^ k, 0⟩ := by
  have whole : ∀ c ∈ ds ++ List.replicate k '0', c.isDigit = true := by
    intro c hc
    rcases List.mem_append.mp hc with digit | zero
    · exact digits c digit
    · exact Text.isDigit_of_mem_replicate zero
  have numeral := Numeral.whole (by simp [some]) whole
  rwa [Text.digitsValue_append, Text.digitsValue_replicate] at numeral

end Layout

/-- Digits with the point at their place are a numeral for the same double. -/
theorem exists_numeral_positional (n : Nat) (e : Int) :
    ∃ d, Numeral (positional false (Text.digits n) ((Text.digits n).length + e)) d ∧
      ∀ s, d.toDouble s = toDouble s ⟨n, e⟩ := by
  have some := Text.digits_ne_nil n
  have digits : ∀ c ∈ Text.digits n, c.isDigit = true := fun c => Text.isDigit_of_mem_digits
  have value := Text.digitsValue_digits n
  generalize Text.digits n = ds at some digits value ⊢
  subst value
  unfold positional
  split
  next before => exact ⟨_, numeral_of_le digits before, fun _ => rfl⟩
  next after =>
    split
    next inside => exact ⟨_, numeral_of_lt digits (Int.not_le.mp after) inside, fun _ => rfl⟩
    next behind =>
      obtain ⟨k, rfl⟩ : ∃ k : ℕ, e = k := ⟨e.toNat, by omega⟩
      have zeros : ((ds.length : Int) + k).toNat - ds.length = k := by omega
      rw [zeros, if_neg Bool.false_ne_true, List.append_nil]
      refine ⟨_, numeral_append_replicate digits some k, fun s => ?_⟩
      exact toDouble_shift _ _ _

/-- What is written for the distance from zero. -/
def body (x : Double) : List Char :=
  if x.isInfinite then ['i', 'n', 'f']
  else if x.isZero then ['0']
  else positional false (Text.digits (shortest x).digits)
    ((Text.digits (shortest x).digits).length + (shortest x).exponent)

section Text

variable {x : Double}

theorem text_plain (number : x.isNaN = false) :
    Style.plain.text x = String.ofList (if x.negative then '-' :: body x else body x) := by
  rw [Style.text, number]
  rfl

/-- The distance from zero of a finite double is written as a numeral for it. -/
theorem exists_numeral_body (finite : x.magnitude < infinityBits) :
    ∃ d, Numeral (body x) d ∧ d.toDouble x.negative = x := by
  have bounded : x.isInfinite = false := beq_false_of_ne finite.ne
  rw [body, bounded, if_neg Bool.false_ne_true]
  cases zero : x.isZero with
  | true =>
      have same : Double.zero x.negative = x := by
        rw [Double.zero, ← beq_iff_eq.mp zero, ofParts_magnitude]
      rw [if_pos rfl]
      exact ⟨_, .whole nofun (List.forall_mem_singleton.mpr rfl), same⟩
  | false =>
      rw [if_neg Bool.false_ne_true]
      have positive : 0 < x.magnitude := Nat.pos_of_ne_zero (ne_of_beq_false zero)
      obtain ⟨d, numeral, same⟩ :=
        exists_numeral_positional (shortest x).digits (shortest x).exponent
      refine ⟨d, numeral, ?_⟩
      rw [same]
      exact toDouble_of_readsBack (readsBack_shortest positive finite)

/-- What is written for a double is read as the same double. -/
theorem parse?_text (number : x.isNaN = false) : parse? (Style.plain.text x) = some x := by
  rw [text_plain number]
  rcases Nat.lt_or_ge x.magnitude infinityBits with finite | infinite
  · obtain ⟨d, numeral, same⟩ := exists_numeral_body finite
    rw [numeral.parse?_eq, same]
  · rw [isNaN, decide_eq_false_iff_not, not_lt] at number
    have bits : x.magnitude = infinityBits := Nat.le_antisymm number infinite
    have written : body x = ['i', 'n', 'f'] := by
      rw [body, Double.isInfinite, bits]
      rfl
    have same : Double.infinity x.negative = x := by
      rw [Double.infinity, ← bits, ofParts_magnitude]
    rw [written, ← same]
    cases x.negative <;> decide +kernel

/-- The characters that a written double is made of. -/
theorem mem_text {c : Char} (number : x.isNaN = false) (h : c ∈ (Style.plain.text x).toList) :
    c.isDigit = true ∨ c ∈ ['.', '-', 'i', 'n', 'f'] := by
  have inside (hc : c ∈ body x) : c.isDigit = true ∨ c ∈ ['.', '-', 'i', 'n', 'f'] := by
    rcases Nat.lt_or_ge x.magnitude infinityBits with finite | infinite
    · obtain ⟨d, numeral, _⟩ := exists_numeral_body finite
      exact (numeral.isDigit_or_eq hc).imp_right fun point => by simp [point]
    · rw [isNaN, decide_eq_false_iff_not, not_lt] at number
      rw [body, Double.isInfinite, Nat.le_antisymm number infinite] at hc
      exact .inr (List.mem_of_mem_drop (i := 2) hc)
  rw [text_plain number, String.toList_ofList] at h
  split at h
  · rcases List.mem_cons.mp h with rfl | hc
    · exact .inr (by decide)
    · exact inside hc
  · exact inside h

end Text

end Speedup.Decimal
