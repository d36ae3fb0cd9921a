import Speedup.Proofs.Double.Order
import Speedup.Sample.Stats

/-!
# The median of a sample

Whether there is a median is a matter of how many numbers there are, not of which. Where numbers
are sorted by a linear order (`SortsLinearly`) it is no matter of their order either, as a sample
has only one sorted form. Doubles are sorted by an order of bit patterns, which is linear whatever
zeros and NaNs there are.
-/

namespace Speedup.Sample

variable {α : Type} [Measurable α] {xs ys : List α} {x m : α}

@[simp] theorem length_sorted (xs : List α) : (sorted xs).length = xs.length :=
  (List.mergeSort_perm xs _).length_eq

/-- Only a sample without numbers has no median. -/
theorem median_eq_none_iff : median xs = none ↔ xs = [] := by
  simp only [median, length_sorted]
  constructor
  · intro h
    rw [← List.length_eq_zero_iff]
    refine Classical.byContradiction fun pos => ?_
    split at h
    · rw [List.getElem?_eq_none_iff, length_sorted] at h
      omega
    · have left : xs.length / 2 - 1 < (sorted xs).length := by rw [length_sorted]; omega
      have right : xs.length / 2 < (sorted xs).length := by rw [length_sorted]; omega
      rw [List.getElem?_eq_getElem left, List.getElem?_eq_getElem right] at h
      cases h
  · rintro rfl
    simp [sorted]

theorem mem_of_getElem?_sorted {i : Nat} (h : (sorted xs)[i]? = some x) : x ∈ xs :=
  (List.mergeSort_perm xs _).mem_iff.mp (List.mem_of_getElem? h)

/-- A median is one of the numbers or the midpoint of two of them. -/
theorem median_eq_some (h : median xs = some m) :
    m ∈ xs ∨ ∃ x ∈ xs, ∃ y ∈ xs, m = (x + y) / ((2 : Nat) : α) := by
  unfold median at h
  dsimp only at h
  split at h
  · exact .inl (mem_of_getElem?_sorted h)
  · split at h
    next left right hl hr =>
      exact .inr ⟨left, mem_of_getElem?_sorted hl, right, mem_of_getElem?_sorted hr,
        (Option.some_inj.mp h).symm⟩
    next => cases h

/-! ## One sorted form -/

/-- The order that numbers are sorted by is linear. -/
class SortsLinearly (α : Type) [Measurable α] : Prop where
  total : ∀ x y : α, (Measurable.sortLE x y || Measurable.sortLE y x) = true
  trans : ∀ x y z : α, Measurable.sortLE x y = true → Measurable.sortLE y z = true →
    Measurable.sortLE x z = true
  antisymm : ∀ x y : α, Measurable.sortLE x y = true → Measurable.sortLE y x = true → x = y

instance : SortsLinearly Double where
  total := Double.totalLE_total
  trans _ _ _ := Double.totalLE_trans
  antisymm _ _ := Double.totalLE_antisymm

section SortsLinearly

variable [SortsLinearly α]

theorem pairwise_sorted (xs : List α) :
    (sorted xs).Pairwise fun a b => Measurable.sortLE a b = true := by
  unfold sorted
  apply List.pairwise_mergeSort
  · exact SortsLinearly.trans
  · exact SortsLinearly.total

/-- There is only one way to put numbers in order. -/
theorem sorted_eq (h : xs.Perm ys)
    (order : ys.Pairwise fun a b => Measurable.sortLE a b = true) : sorted xs = ys :=
  ((List.mergeSort_perm xs _).trans h).eq_of_pairwise (fun a b _ _ => SortsLinearly.antisymm a b)
    (pairwise_sorted xs) order

theorem sorted_perm (h : xs.Perm ys) : sorted xs = sorted ys :=
  sorted_eq (h.trans (List.mergeSort_perm ys _).symm) (pairwise_sorted ys)

theorem median_perm (h : xs.Perm ys) : median xs = median ys := by
  unfold median
  rw [sorted_perm h]

end SortsLinearly

/-! ## Samples of doubles -/

/-- The statistics of a sample hold its median, and there are some exactly where there is one. -/
theorem map_median_ofValues (xs : List Double) :
    (Stats.ofValues xs).map (·.median) = median xs := by
  cases h : median xs with
  | none =>
      rw [median_eq_none_iff.mp h]
      rfl
  | some m =>
      have some_value : xs.isEmpty = false := by
        rw [List.isEmpty_eq_false_iff]
        rintro rfl
        rw [median_eq_none_iff.mpr rfl] at h
        cases h
      simp [Stats.ofValues, mean, some_value, h]

theorem isSome_ofValues_iff {xs : List Double} : (Stats.ofValues xs).isSome ↔ xs ≠ [] := by
  rw [← Option.isSome_map, map_median_ofValues, ne_eq, ← median_eq_none_iff,
    Option.isSome_iff_ne_none]

end Speedup.Sample

namespace Speedup.Stats

variable {xs : List Double} {s : Stats}

theorem eq_of_ofValues (h : ofValues xs = some s) :
    Sample.mean xs = some s.mean ∧ Sample.median xs = some s.median ∧
      s.min = (Sample.least xs).getD (Double.infinity false) ∧
      s.max = (Sample.greatest xs).getD (Double.infinity true) ∧ s.n = xs.length := by
  unfold ofValues at h
  obtain ⟨mean, hmean, h⟩ := Option.bind_eq_some_iff.mp h
  obtain ⟨median, hmedian, h⟩ := Option.bind_eq_some_iff.mp h
  cases h
  exact ⟨hmean, hmedian, rfl, rfl, rfl⟩

/-- Only a sample without values has no statistics, and no mean. -/
theorem map_mean_ofValues (xs : List Double) :
    (ofValues xs).map (·.mean) = Sample.mean xs := by
  cases h : ofValues xs with
  | none =>
      have some_stats : xs ≠ [] → (ofValues xs).isSome := Sample.isSome_ofValues_iff.mpr
      have no_value : xs = [] := by simpa [h] using some_stats
      rw [no_value]
      rfl
  | some s => exact (eq_of_ofValues h).1.symm

theorem map_n_ofValues (some_value : xs ≠ []) : (ofValues xs).map (·.n) = some xs.length := by
  obtain ⟨s, h⟩ := Option.isSome_iff_exists.mp (Sample.isSome_ofValues_iff.mpr some_value)
  rw [h, Option.map_some, (eq_of_ofValues h).2.2.2.2]

end Speedup.Stats
