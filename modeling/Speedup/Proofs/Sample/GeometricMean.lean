import Mathlib.Algebra.Order.Field.Basic
import Mathlib.Analysis.SpecialFunctions.Exp
import Mathlib.Data.Finset.Max
import Mathlib.Order.Hom.Basic
import Mathlib.Tactic.Linarith
import Speedup.Proofs.Sample.Mean

/-!
# The geometric mean

There are three ways to a geometric mean (`geometricMean_cases`), told apart by how many usable
numbers there are, and nothing else of a sample plays a part. Among doubles, what is left out are
NaNs, infinities, zeros and negative numbers (`usable_eq_filter`). The logarithms of the others are
in a range of finite width, so their mean is finite and the way back gives a number: it is only
undefined without usable numbers.

In exact arithmetic (`Exact`) the running mean of numbers between two bounds never leaves them. An
exponential function and its inverse keep bounds, so a geometric mean lies between the least and
the greatest of the usable numbers, whatever the function is (`geometricMean_averages`).
-/

namespace Speedup

/-! ## Logarithms of doubles -/

namespace Double

variable {f : Float → Float} {low high x : Double}

theorem onMachine_between (le : low.place ≤ high.place) :
    low.place ≤ (onMachine f low high x).place ∧ (onMachine f low high x).place ≤ high.place := by
  unfold onMachine
  dsimp only
  split
  next above =>
    split
    next below => exact ⟨(lt_iff_place.mp above).2.2.le, (lt_iff_place.mp below).2.2.le⟩
    next => exact ⟨le, le_rfl⟩
  next => exact ⟨le_rfl, le⟩

theorem isNaN_onMachine (hl : low.isNaN = false) (hh : high.isNaN = false) :
    (onMachine f low high x).isNaN = false := by
  unfold onMachine
  dsimp only
  split
  next above =>
    split
    next => exact (lt_iff_place.mp above).2.1
    next => exact hh
  next => exact hl

/-- The logarithm of every finite number above zero is in one range. -/
theorem ln_between (finite : x.isFinite = true) (positive : Double.lt 0 x = true) :
    (ofNat 745).neg.place ≤ (ln x).place ∧ (ln x).place ≤ (ofNat 710).place := by
  obtain ⟨number, above⟩ := zero_lt_iff.mp positive
  have bounded : x.isInfinite = false := beq_false_of_ne (isFinite_iff.mp finite).ne
  have not_negative : x.negative = false := by
    cases sign : x.negative with
    | false => rfl
    | true =>
        rw [place, if_pos sign] at above
        omega
  have not_zero : x.isZero = false := by
    apply beq_false_of_ne
    rw [← natAbs_place]
    omega
  simp only [ln, number, bounded, not_negative, not_zero, Bool.false_eq_true, if_false]
  split
  · decide
  · exact onMachine_between (by decide)

/-- There is an exponential of every number. -/
theorem isNaN_exp (h : x.isNaN = false) : (exp x).isNaN = false := by
  simp only [exp, h, Bool.false_eq_true, if_false]
  split
  · decide
  · exact isNaN_onMachine (by decide) (by decide)

/-- What a geometric mean leaves out: NaNs, infinities, zeros and negative numbers. -/
def LeftOut (x : Double) : Prop :=
  x.isNaN = true ∨ x.isInfinite = true ∨ x.isZero = true ∨ x.lt 0 = true

instance : Decidable x.LeftOut := inferInstanceAs (Decidable (_ ∨ _))

theorem not_leftOut_iff : ¬ x.LeftOut ↔ x.isFinite = true ∧ Double.lt 0 x = true := by
  have zero : (0 : Double).place = 0 := by decide
  have number : (0 : Double).isNaN = false := by decide
  rw [LeftOut, isInfinite, isZero, beq_iff_eq, beq_iff_eq, ← natAbs_place, lt_iff_place,
    and_iff_right number, zero, zero_lt_iff, ← Bool.not_eq_true, isNaN_iff_place,
    isFinite_iff_place]
  omega

end Double

namespace Sample

/-! ## The three ways -/

section Logarithmic

variable {α : Type} [Logarithmic α] {xs ys : List α} {x : α}

theorem geometricMean_congr (h : usable xs = usable ys) : geometricMean xs = geometricMean ys := by
  unfold geometricMean
  rw [h]

theorem geometricMean_of_single (h : usable xs = [x]) : geometricMean xs = some x := by
  unfold geometricMean
  rw [h]

/-- Without usable numbers there is no geometric mean, one is its own, and that of several is led
through their logarithms. -/
theorem geometricMean_cases (xs : List α) :
    (usable xs = [] ∧ geometricMean xs = none) ∨
    (∃ x, usable xs = [x] ∧ geometricMean xs = some x) ∨
    ∃ m, usable xs ≠ [] ∧ mean ((usable xs).map Logarithmic.ln) = some m ∧
      geometricMean xs = some (Logarithmic.exp m) := by
  unfold geometricMean
  cases usable xs with
  | nil => exact .inl ⟨rfl, rfl⟩
  | cons x rest =>
      cases rest with
      | nil => exact .inr (.inl ⟨x, rfl, rfl⟩)
      | cons y rest => exact .inr (.inr ⟨_, List.cons_ne_nil _ _, rfl, rfl⟩)

theorem geometricMean_eq_none_iff : geometricMean xs = none ↔ usable xs = [] := by
  rcases geometricMean_cases xs with ⟨none, mean⟩ | ⟨x, one, mean⟩ | ⟨m, some, -, mean⟩
  · exact iff_of_true mean none
  · rw [mean, one]
    exact iff_of_false (Option.some_ne_none x) (List.cons_ne_nil x [])
  · rw [mean]
    exact iff_of_false (Option.some_ne_none _) some

end Logarithmic

/-! ## Doubles -/

section Double

variable {xs : List Double} {x m : Double}

theorem usable_eq_filter (xs : List Double) : usable xs = xs.filter (¬ ·.LeftOut) := by
  refine List.filter_congr ?_
  intro x _
  rw [Bool.eq_iff_iff, decide_eq_true_eq, Double.not_leftOut_iff]
  exact Bool.and_eq_true_iff

theorem mem_usable (h : x ∈ usable xs) : x.isFinite = true ∧ Double.lt 0 x = true := by
  rw [usable_eq_filter, List.mem_filter, decide_eq_true_eq, Double.not_leftOut_iff] at h
  exact h.2

/-- The distance between any two logarithms is finite. -/
theorem close_map_ln (xs : List Double) : Close ((usable xs).map Double.ln) := by
  intro a ha b hb
  obtain ⟨x, hx, rfl⟩ := List.mem_map.mp ha
  obtain ⟨y, hy, rfl⟩ := List.mem_map.mp hb
  obtain ⟨finite_x, positive_x⟩ := mem_usable hx
  obtain ⟨finite_y, positive_y⟩ := mem_usable hy
  have low : (Double.ofNat 745).neg.isFinite = true := by decide
  have high : (Double.ofNat 710).isFinite = true := by decide
  have width : (Double.ofNat 710 - (Double.ofNat 745).neg).isFinite = true := by decide +kernel
  exact Double.isFinite_sub_of_range low high width (Double.ln_between finite_x positive_x)
    (Double.ln_between finite_y positive_y)

/-- The geometric mean is a number as soon as there is a usable one. -/
theorem isNaN_geometricMean_iff : (Speedup.geometricMean xs).isNaN = true ↔ usable xs = [] := by
  rw [Speedup.geometricMean]
  rcases geometricMean_cases xs with ⟨none, mean⟩ | ⟨x, one, mean⟩ | ⟨m, some, found, mean⟩
  · rw [mean]
    exact iff_of_true (by decide) none
  · obtain ⟨finite, -⟩ := mem_usable (one ▸ List.mem_singleton_self x)
    rw [mean, one, Option.getD_some, Double.isNaN_of_isFinite finite]
    exact iff_of_false Bool.false_ne_true (List.cons_ne_nil _ _)
  · have finite := isFinite_mean (close_map_ln xs) found
    have number := Double.isNaN_exp (Double.isNaN_of_isFinite finite)
    rw [mean, Option.getD_some]
    refine iff_of_false ?_ some
    rw [Bool.not_eq_true]
    exact number

end Double

/-! ## Exact arithmetic -/

section Bounds

variable {K : Type} [Field K] [LinearOrder K] [IsStrictOrderedRing K] {low high m n x : K}

/-- What is corrected by a share of the distance to a number does not go past it. -/
theorem corrected_between (one_le : 1 ≤ n) (hm : low ≤ m ∧ m ≤ high) (hx : low ≤ x ∧ x ≤ high) :
    low ≤ m + (x - m) / n ∧ m + (x - m) / n ≤ high := by
  have positive : 0 ≤ n := zero_le_one.trans one_le
  rcases le_total m x with up | down
  · have share := div_nonneg (sub_nonneg.mpr up) positive
    have whole := div_le_self (sub_nonneg.mpr up) one_le
    constructor
    · linarith
    · linarith
  · have share := div_nonneg (sub_nonneg.mpr down) positive
    have whole := div_le_self (sub_nonneg.mpr down) one_le
    have turned : (x - m) / n = -((m - x) / n) := by rw [← neg_div, neg_sub]
    constructor
    · linarith
    · linarith

omit [LinearOrder K] [IsStrictOrderedRing K] in
/-- The first number is the mean. -/
theorem corrected_first (x : K) :
    ((0 : Nat) : K) + (x - ((0 : Nat) : K)) / ((0 + 1 : Nat) : K) = x := by
  simp

end Bounds

section Exact

variable {K : Type} [Field K] [LinearOrder K]

/-- Exact numbers with an increasing exponential function, which takes all of them to the ones
above zero. Its inverse is the logarithm. -/
def Exact (_ : K ≃o Set.Ioi (0 : K)) : Type := K

variable {exp : K ≃o Set.Ioi (0 : K)}

instance : Field (Exact exp) := inferInstanceAs (Field K)
instance : LinearOrder (Exact exp) := inferInstanceAs (LinearOrder K)

instance : Logarithmic (Exact exp) where
  less x y := decide (x < y)
  sortLE x y := decide (x ≤ y)
  isUndefined _ := false
  ln x := if above : 0 < x then exp.symm ⟨x, above⟩ else 0
  exp x := (exp x : K)
  isFinite _ := true

variable {xs ys : List (Exact exp)} {low high m x y : Exact exp}

theorem less_iff : Measurable.less x y = true ↔ x < y := decide_eq_true_iff

theorem usable_exact (xs : List (Exact exp)) : usable xs = xs.filter (0 < ·) := by
  refine List.filter_congr ?_
  intro x _
  have zero : ((0 : Nat) : K) = 0 := Nat.cast_zero
  rw [Bool.eq_iff_iff, Bool.and_eq_true_iff, decide_eq_true_eq, less_iff]
  constructor
  · rintro ⟨-, above⟩
    exact lt_of_eq_of_lt zero.symm above
  · intro above
    exact ⟨rfl, lt_of_eq_of_lt zero above⟩

theorem mem_usable_exact : x ∈ usable xs ↔ x ∈ xs ∧ 0 < x := by
  rw [usable_exact, List.mem_filter, decide_eq_true_eq]

theorem exp_ln (above : 0 < x) : Logarithmic.exp (Logarithmic.ln x) = x := by
  show ((exp (if above : 0 < x then exp.symm ⟨x, above⟩ else 0) : Set.Ioi (0 : K)) : K) = x
  rw [dif_pos above, OrderIso.apply_symm_apply]

theorem exp_mono (h : x ≤ y) : (Logarithmic.exp x : Exact exp) ≤ Logarithmic.exp y :=
  exp.monotone h

theorem ln_mono (above : 0 < x) (h : x ≤ y) :
    (Logarithmic.ln x : Exact exp) ≤ Logarithmic.ln y := by
  show (if above : 0 < x then exp.symm ⟨x, above⟩ else 0) ≤
    (if above : 0 < y then exp.symm ⟨y, above⟩ else 0)
  rw [dif_pos above, dif_pos (above.trans_le h)]
  exact exp.symm.monotone h

variable [IsStrictOrderedRing K]

/-- The running mean never leaves bounds that all numbers are between. The induction is on the
numbers taken so far; only the first one is the mean whatever was there before. -/
theorem mean_running_between (some_number : xs ≠ []) (h : ∀ x ∈ xs, low ≤ x ∧ x ≤ high) :
    low ≤ (running xs).mean ∧ (running xs).mean ≤ high := by
  induction xs using List.reverseRecOn with
  | nil => exact absurd rfl some_number
  | append_singleton front x ih =>
      have last := h x (by simp)
      rw [mean_running_concat]
      by_cases first : front = []
      · subst first
        have same := corrected_first (K := K) x
        exact ⟨last.1.trans_eq same.symm, same.trans_le last.2⟩
      · have before := ih first fun y hy => h y (List.mem_append_left _ hy)
        have one_le : (1 : K) ≤ ((front.length + 1 : Nat) : K) := by
          rw [Nat.cast_add, Nat.cast_one]
          exact le_add_of_nonneg_left (Nat.cast_nonneg _)
        exact corrected_between (K := K) one_le before last

/-- A geometric mean is between any two usable numbers that all others are between. -/
theorem geometricMean_between (found : geometricMean xs = some m) (hl : low ∈ usable xs)
    (hh : high ∈ usable xs) (h : ∀ x ∈ usable xs, low ≤ x ∧ x ≤ high) : low ≤ m ∧ m ≤ high := by
  rcases geometricMean_cases xs with ⟨-, mean⟩ | ⟨x, one, mean⟩ | ⟨l, some, middle, mean⟩
  · rw [mean] at found
    cases found
  · cases Option.some.inj (mean.symm.trans found)
    apply h
    rw [one]
    exact List.mem_singleton_self _
  · cases Option.some.inj (mean.symm.trans found)
    have some_logarithm : (usable xs).map Logarithmic.ln ≠ [] := mt List.map_eq_nil_iff.mp some
    rw [mean_of_ne_nil some_logarithm] at middle
    cases middle
    have above_low := (mem_usable_exact.mp hl).2
    have above_high := (mem_usable_exact.mp hh).2
    have between : Logarithmic.ln low ≤ (running ((usable xs).map Logarithmic.ln)).mean ∧
        (running ((usable xs).map Logarithmic.ln)).mean ≤ Logarithmic.ln high := by
      apply mean_running_between some_logarithm
      intro l hl
      obtain ⟨x, hx, rfl⟩ := List.mem_map.mp hl
      exact ⟨ln_mono above_low (h x hx).1, ln_mono (mem_usable_exact.mp hx).2 (h x hx).2⟩
    constructor
    · exact (exp_ln above_low).symm.trans_le (exp_mono between.1)
    · exact (exp_mono between.2).trans_eq (exp_ln above_high)

end Exact

/-! ## What a geometric mean is -/

/-- A mean rests on what is kept of a list. Nothing else plays a part, it is undefined just without
anything kept, and a single number that is kept is its own mean. -/
structure RestsOn {α β : Type} (kept : List α → List α) (undefined : β → Prop) (own : α → β)
    (mean : List α → β) : Prop where
  congr : ∀ xs ys, kept xs = kept ys → mean xs = mean ys
  undefined_iff : ∀ xs, undefined (mean xs) ↔ kept xs = []
  single : ∀ xs x, kept xs = [x] → mean xs = own x

/-- A number is an average of those that are above zero: it lies between the least and the greatest
of them, and is the same number if they all are. -/
structure Averages {K : Type} [Field K] [LinearOrder K] (m : K) (xs : List K) : Prop where
  between : ∃ low high, IsLeast {x | x ∈ xs ∧ 0 < x} low ∧ IsGreatest {x | x ∈ xs ∧ 0 < x} high ∧
    low ≤ m ∧ m ≤ high
  constant : ∀ v, (∀ x ∈ xs, 0 < x → x = v) → m = v

theorem restsOn_double :
    RestsOn (·.filter (¬ ·.LeftOut)) (·.isNaN = true) id Speedup.geometricMean where
  congr xs ys same := by
    rw [← usable_eq_filter, ← usable_eq_filter] at same
    rw [Speedup.geometricMean, Speedup.geometricMean, geometricMean_congr same]
  undefined_iff xs := by rw [isNaN_geometricMean_iff, usable_eq_filter]
  single xs x one := by
    rw [← usable_eq_filter] at one
    rw [Speedup.geometricMean, geometricMean_of_single one]
    rfl

section Exact

variable {K : Type} [Field K] [LinearOrder K] {exp : K ≃o Set.Ioi (0 : K)}

theorem restsOn_exact :
    RestsOn (·.filter (0 < ·)) (· = none) some (geometricMean (α := Exact exp)) where
  congr xs ys same := by
    rw [← usable_exact, ← usable_exact] at same
    exact geometricMean_congr same
  undefined_iff xs := by rw [geometricMean_eq_none_iff, usable_exact]
  single xs x one := by
    rw [← usable_exact] at one
    exact geometricMean_of_single one

variable [IsStrictOrderedRing K] {xs : List (Exact exp)} {m : Exact exp}

theorem averages_of_geometricMean (found : geometricMean xs = some m) : Averages m xs := by
  have some_number : (usable xs).toFinset.Nonempty := by
    rw [List.toFinset_nonempty_iff, ne_eq, ← geometricMean_eq_none_iff, found]
    exact Option.some_ne_none m
  have members : ((usable xs).toFinset : Set (Exact exp)) = {x | x ∈ xs ∧ 0 < x} := by
    ext x
    rw [List.coe_toFinset]
    exact mem_usable_exact
  have least := (usable xs).toFinset.isLeast_min' some_number
  have greatest := (usable xs).toFinset.isGreatest_max' some_number
  have between := geometricMean_between found (List.mem_toFinset.mp least.1)
    (List.mem_toFinset.mp greatest.1) fun x hx =>
      ⟨least.2 (List.mem_toFinset.mpr hx), greatest.2 (List.mem_toFinset.mpr hx)⟩
  rw [members] at least greatest
  refine ⟨⟨_, _, least, greatest, between⟩, ?_⟩
  intro v same
  rw [same _ least.1.1 least.1.2, same _ greatest.1.1 greatest.1.2] at between
  exact le_antisymm between.2 between.1

/-- The geometric mean of doubles rests on those that are finite and above zero. In exact arithmetic
it is the same computation, and it averages the numbers above zero whatever increasing exponential
function it goes through. -/
theorem geometricMean_averages {K : Type} [Field K] [LinearOrder K] [IsStrictOrderedRing K]
    (exp : K ≃o Set.Ioi (0 : K)) :
    RestsOn (·.filter (¬ ·.LeftOut)) (·.isNaN = true) id Speedup.geometricMean ∧
    RestsOn (·.filter (0 < ·)) (· = none) some (geometricMean (α := Exact exp)) ∧
    ∀ xs : List (Exact exp), ∀ m ∈ geometricMean xs, Averages m xs := by
  refine ⟨restsOn_double, restsOn_exact, ?_⟩
  intro xs m found
  exact averages_of_geometricMean found

end Exact

/-- One double is left, or none is; with real numbers, two are. -/
theorem geometricMean_averages_two :
    (Speedup.geometricMean [.nan true, 2, .neg 3, .zero true, .infinity false] = 2 ∧
      (Speedup.geometricMean [.zero false, .nan false, .infinity true]).isNaN = true) ∧
    ∃ m : ℝ, geometricMean (α := Exact Real.expOrderIso) ([2, -3, 8] : List ℝ) = some m ∧
      2 ≤ m ∧ m ≤ 8 := by
  obtain ⟨double, exact, average⟩ := geometricMean_averages Real.expOrderIso
  refine ⟨⟨double.single _ 2 (by decide), (double.undefined_iff _).mpr (by decide)⟩, ?_⟩
  have kept : ¬ ([2, -3, 8] : List ℝ).filter (0 < ·) = [] := by
    rw [List.filter_eq_nil_iff]
    intro none
    exact none 2 (by simp) (by simp)
  obtain ⟨m, found⟩ := Option.ne_none_iff_exists'.mp (mt (exact.undefined_iff _).mp kept)
  obtain ⟨⟨low, high, ⟨low_mem, -⟩, ⟨high_mem, -⟩, le_m, m_le⟩, -⟩ := average _ m found
  have between {x : ℝ} (hx : x ∈ ([2, -3, 8] : List ℝ) ∧ 0 < x) : 2 ≤ x ∧ x ≤ 8 := by
    obtain ⟨mem, above⟩ := hx
    simp only [List.mem_cons, List.not_mem_nil, or_false] at mem
    rcases mem with rfl | rfl | rfl
    · norm_num
    · norm_num at above
    · norm_num
  exact ⟨m, found, (between low_mem).1.trans le_m, m_le.trans (between high_mem).2⟩

end Sample

end Speedup
