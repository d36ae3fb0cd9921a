import Speedup.Proofs.Sample.Median

/-!
# The median by counting

Where a number stands in a sorted sample is a matter of how many numbers are on either side of it,
and these can be counted in the sample as it comes. Two numbers are in its middle (`Middle`) where
at least half of the sample is at most the lower one, at least half is at least the higher one, and
more than half is on the other side of each. There is only one such pair, however often a number
occurs: two halves that are more than the whole together meet in one of its numbers
(`sortLE_of_length_lt`).

The median is the number in the middle, or the midpoint of the two there, and nothing else is
(`median_by_counting`).
-/

namespace Speedup.Sample

/-! ## Counting in a list -/

section Counting

variable {α : Type} {p q : α → Bool} {xs : List α} {i : Nat}

/-- What holds of all elements behind a place holds of as many as there are. -/
theorem le_countP_of_drop (all : ∀ x ∈ xs.drop i, p x = true) : xs.length - i ≤ xs.countP p := by
  rw [← List.length_drop, ← List.countP_eq_length.mpr all]
  exact (List.drop_sublist i xs).countP_le

theorem le_countP_of_take (inside : i ≤ xs.length) (all : ∀ x ∈ xs.take i, p x = true) :
    i ≤ xs.countP p := by
  have length : (xs.take i).length = i := List.length_take_of_le inside
  rw [← length, ← List.countP_eq_length.mpr all]
  exact (List.take_sublist i xs).countP_le

/-- What holds of more than all elements together holds of one of them at once. -/
theorem exists_mem_of_length_lt (many : xs.length < xs.countP p + xs.countP q) :
    ∃ x ∈ xs, p x = true ∧ q x = true := by
  by_contra apart
  have others : xs.countP q ≤ xs.countP fun x => decide (¬ p x = true) := by
    apply List.countP_mono_left
    intro x hx hq
    exact decide_eq_true fun hp => apart ⟨x, hx, hp, hq⟩
  have whole := xs.length_eq_countP_add_countP p
  omega

/-- Neighbours stand at two places of a list. -/
theorem exists_perm_neighbours (inside : i + 1 < xs.length) :
    ∃ others, xs.Perm (xs[i] :: xs[i + 1] :: others) := by
  refine ⟨xs.take i ++ xs.drop (i + 2), ?_⟩
  have behind : xs.drop i = xs[i] :: xs[i + 1] :: xs.drop (i + 2) := by
    rw [List.getElem_cons_drop, List.getElem_cons_drop]
  have split : xs = xs.take i ++ [xs[i], xs[i + 1]] ++ xs.drop (i + 2) := by
    conv_lhs => rw [← List.take_append_drop i xs, behind]
    simp
  conv_lhs => rw [split]
  exact List.perm_append_comm.append_right _

end Counting

variable {α : Type} [Measurable α] {xs ys : List α} {a b low high low' high' m m' : α} {i j : Nat}

/-! ## The middle of a sample -/

/-- Two numbers in the middle of a sample: at least half of it is at most the lower one, at least
half is at least the higher one, and more than half is on the other side of each. -/
structure Middle (low high : α) (xs : List α) : Prop where
  below_low : xs.length ≤ 2 * xs.countP (Measurable.sortLE · low)
  above_low : xs.length < 2 * xs.countP (Measurable.sortLE low ·)
  below_high : xs.length < 2 * xs.countP (Measurable.sortLE · high)
  above_high : xs.length ≤ 2 * xs.countP (Measurable.sortLE high ·)

/-- Counting does not look at the order of a sample. -/
theorem Middle.perm (h : Middle low high xs) (perm : xs.Perm ys) : Middle low high ys := by
  obtain ⟨below_low, above_low, below_high, above_high⟩ := h
  rw [perm.countP_eq, perm.length_eq] at below_low above_low below_high above_high
  exact ⟨below_low, above_low, below_high, above_high⟩

/-- A median by counting: in an odd sample the number in the middle, in an even one the midpoint of
the numbers in the middle, which stand at two places of it. -/
inductive IsMiddle (xs : List α) : α → Prop
  | odd {m : α} (odd : xs.length % 2 = 1) (mem : m ∈ xs) (middle : Middle m m xs) : IsMiddle xs m
  | even {low high : α} (even : xs.length % 2 = 0)
      (places : ∃ others, xs.Perm (low :: high :: others)) (middle : Middle low high xs) :
      IsMiddle xs ((low + high) / ((2 : Nat) : α))

theorem IsMiddle.ne_nil (h : IsMiddle xs m) : xs ≠ [] := by
  rintro rfl
  cases h with
  | odd odd mem middle => cases mem
  | even even places middle =>
      obtain ⟨others, perm⟩ := places
      exact absurd (List.nil_perm.mp perm) (List.cons_ne_nil _ _)

section SortsLinearly

variable [SortsLinearly α]

theorem sortLE_refl (a : α) : Measurable.sortLE a a = true := by
  have total := SortsLinearly.total a a
  rwa [Bool.or_self] at total

/-- If more numbers than there are lie below one number or above another, then one of them lies
between the two. -/
theorem sortLE_of_length_lt (xs : List α) (many : xs.length <
    xs.countP (Measurable.sortLE · b) + xs.countP (Measurable.sortLE a ·)) :
    Measurable.sortLE a b = true := by
  obtain ⟨x, -, below, above⟩ := exists_mem_of_length_lt many
  exact SortsLinearly.trans a x b above below

/-- The numbers in the middle are in order. -/
theorem Middle.ordered (h : Middle low high xs) : Measurable.sortLE low high = true := by
  apply sortLE_of_length_lt xs
  have above := h.above_low
  have below := h.below_high
  omega

/-- There is one pair of numbers in the middle. -/
theorem Middle.unique (h : Middle low high xs) (h' : Middle low' high' xs) :
    low = low' ∧ high = high' := by
  obtain ⟨below_low, above_low, below_high, above_high⟩ := h
  obtain ⟨below_low', above_low', below_high', above_high'⟩ := h'
  constructor
  · apply SortsLinearly.antisymm
    · apply sortLE_of_length_lt xs
      omega
    · apply sortLE_of_length_lt xs
      omega
  · apply SortsLinearly.antisymm
    · apply sortLE_of_length_lt xs
      omega
    · apply sortLE_of_length_lt xs
      omega

theorem IsMiddle.unique (h : IsMiddle xs m) (h' : IsMiddle xs m') : m = m' := by
  cases h with
  | odd odd mem middle =>
      cases h' with
      | odd odd' mem' middle' => exact (middle.unique middle').1
      | even even' places' middle' => omega
  | even even places middle =>
      cases h' with
      | odd odd' mem' middle' => omega
      | even even' places' middle' =>
          obtain ⟨rfl, rfl⟩ := middle.unique middle'
          rfl

/-! ## The middle of a sorted sample -/

section Sorted

variable (order : xs.Pairwise fun a b => Measurable.sortLE a b = true)

include order

theorem sortLE_getElem (le : i ≤ j) (inside : j < xs.length) :
    Measurable.sortLE xs[i] xs[j] = true := by
  rcases le.eq_or_lt with rfl | less
  · exact sortLE_refl _
  · exact List.pairwise_iff_getElem.mp order i j _ _ less

/-- As many numbers are at most the one at a place as stand up to it. -/
theorem succ_le_countP (inside : i < xs.length) :
    i + 1 ≤ xs.countP (Measurable.sortLE · xs[i]) := by
  apply le_countP_of_take inside
  intro x hx
  obtain ⟨j, hj, rfl⟩ := List.mem_take_iff_getElem.mp hx
  exact sortLE_getElem order (by omega) inside

/-- As many numbers are at least the one at a place as stand from it on. -/
theorem length_sub_le_countP (inside : i < xs.length) :
    xs.length - i ≤ xs.countP (Measurable.sortLE xs[i] ·) := by
  apply le_countP_of_drop
  intro x hx
  obtain ⟨j, hj, rfl⟩ := List.mem_drop_iff_getElem.mp hx
  have later : i + j < xs.length := by omega
  exact sortLE_getElem order (Nat.le_add_right i j) later

/-- The two middle places of a sorted sample, which are one place if it is odd, hold the numbers in
its middle. -/
theorem middle_getElem (some_number : 0 < xs.length) :
    Middle xs[(xs.length - 1) / 2] xs[xs.length / 2] xs := by
  have low_inside : (xs.length - 1) / 2 < xs.length := by omega
  have high_inside : xs.length / 2 < xs.length := by omega
  have below_low := succ_le_countP order low_inside
  have above_low := length_sub_le_countP order low_inside
  have below_high := succ_le_countP order high_inside
  have above_high := length_sub_le_countP order high_inside
  constructor
  · omega
  · omega
  · omega
  · omega

end Sorted

/-! ## The median -/

/-- A sample with numbers has a median, which is in its middle. -/
theorem exists_isMiddle (some_number : xs ≠ []) : ∃ m, median xs = some m ∧ IsMiddle xs m := by
  have perm : (sorted xs).Perm xs := List.mergeSort_perm xs _
  have length : (sorted xs).length = xs.length := length_sorted xs
  have pos : 0 < (sorted xs).length := by
    rw [length]
    exact List.length_pos_iff.mpr some_number
  have middle := middle_getElem (pairwise_sorted xs) pos
  unfold median
  dsimp only
  split
  next odd =>
    have inside : (sorted xs).length / 2 < (sorted xs).length := by omega
    have same : ((sorted xs).length - 1) / 2 = (sorted xs).length / 2 := by omega
    simp only [same] at middle
    refine ⟨_, List.getElem?_eq_getElem inside, ?_⟩
    refine .odd (length ▸ odd) ?_ (middle.perm perm)
    exact perm.mem_iff.mp (List.getElem_mem inside)
  next even =>
    have inside : (sorted xs).length / 2 - 1 + 1 < (sorted xs).length := by omega
    have left : ((sorted xs).length - 1) / 2 = (sorted xs).length / 2 - 1 := by omega
    have right : (sorted xs).length / 2 = (sorted xs).length / 2 - 1 + 1 := by omega
    obtain ⟨others, places⟩ := exists_perm_neighbours inside
    simp only [left] at middle
    rw [List.getElem?_eq_getElem (by omega), List.getElem?_eq_getElem (by omega)]
    refine ⟨_, rfl, .even ?_ ⟨others, ?_⟩ (middle.perm perm)⟩
    · omega
    · refine perm.symm.trans ?_
      simp only [← right] at places
      exact places

theorem median_eq_some_iff : median xs = some m ↔ IsMiddle xs m := by
  constructor
  · intro h
    have some_number : xs ≠ [] := by
      rintro rfl
      rw [median_eq_none_iff.mpr rfl] at h
      cases h
    obtain ⟨m', found, middle⟩ := exists_isMiddle some_number
    cases Option.some.inj (found.symm.trans h)
    exact middle
  · intro h
    obtain ⟨m', found, middle⟩ := exists_isMiddle h.ne_nil
    rw [found, middle.unique h]

end SortsLinearly

/-! ## Samples of doubles -/

/-- Doubles in any order have the median that is told by counting in the order of all bit patterns,
and only where there are no doubles there is none. -/
theorem median_by_counting (xs : List Double) :
    (median xs = none ↔ xs = []) ∧ (∀ m, median xs = some m ↔ IsMiddle xs m) ∧
      ∀ ys, ys.Perm xs → median ys = median xs := by
  refine ⟨median_eq_none_iff, fun m => median_eq_some_iff, ?_⟩
  intro ys perm
  exact median_perm perm

/-- The numbers in the middle of an even sample are the two zeros, whose midpoint is positive. -/
theorem median_by_counting_zeros :
    let numbers : List Double := [2, .zero false, .neg 1, .zero true]
    let others : List Double := [.neg 1, .zero true, .zero false, 2]
    others.Perm numbers ∧ median others = median numbers ∧
      median numbers = some (.zero false) ∧ IsMiddle numbers (.zero false) := by
  intro numbers others
  have perm : others.Perm numbers := by decide
  have ordered : sorted others = others := sorted_eq (List.Perm.refl _) (by decide)
  have found : median others = some (.zero false) := by
    rw [median, ordered]
    decide +kernel
  obtain ⟨-, counted, reordered⟩ := median_by_counting numbers
  have same := reordered others perm
  have middle : median numbers = some (.zero false) := same.symm.trans found
  exact ⟨perm, same, middle, (counted _).mp middle⟩

end Speedup.Sample
