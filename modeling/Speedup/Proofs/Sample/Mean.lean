import Mathlib.Data.List.Induction
import Speedup.Proofs.Double.Value
import Speedup.Proofs.Sample.Median

/-!
# Means and medians that are defined

A running mean is corrected by a share of the distance to every number it takes. Where all
distances between the numbers are finite (`Close`), it never leaves them: after each number it lies
between two of them (`mean_between`), so it is a finite double. Where they are not, the mean of
finite numbers may be infinite or undefined. A median of finite numbers is always a number
(`isNaN_median`), as their midpoint is at worst infinite.
-/

namespace Speedup.Sample

open Double

variable {xs : List Double} {m x : Double} {k : Nat}

/-- The distance between any two of the numbers is a finite double. -/
def Close (xs : List Double) : Prop := ∀ x ∈ xs, ∀ y ∈ xs, (x - y).isFinite = true

theorem Close.isFinite (close : Close xs) (hx : x ∈ xs) : x.isFinite = true :=
  isFinite_of_sub_self (close x hx x hx)

theorem Close.of_subset {ys : List Double} (close : Close xs) (fewer : ys ⊆ xs) : Close ys :=
  fun x hx y hy => close x (fewer hx) y (fewer hy)

/-- The first number is the mean, as far as places go. -/
theorem place_first (hx : x.isFinite = true) :
    (ofNat 0 + (x - ofNat 0) / ofNat 1).place = x.place := by
  have zero : (ofNat 0).isFinite = true := isFinite_ofNat (by norm_num)
  have toRat_zero : (ofNat 0).toRat = 0 := by decide
  have difference : (x - ofNat 0).place = x.place := by
    rw [place_sub hx zero, toRat_zero, sub_zero, place_ofRat_toRat hx]
  have distance : (x - ofNat 0).isFinite = true := by
    rw [isFinite_iff_place] at hx ⊢
    rwa [difference]
  have whole : ((x - ofNat 0) / ofNat 1).place = x.place :=
    (place_div_one distance).trans difference
  rw [place_add zero (isFinite_div_count distance one_pos), toRat_zero, zero_add,
    toRat_congr whole, place_ofRat_toRat hx]

/-- A mean that is corrected by a share of a finite distance ends between where it was and the
number that it takes. -/
theorem place_corrected_between (hm : m.isFinite = true) (hx : x.isFinite = true)
    (distance : (x - m).isFinite = true) (hk : 2 ≤ k) :
    (m.place ≤ (m + (x - m) / ofNat k).place ∧ (m + (x - m) / ofNat k).place ≤ x.place) ∨
      (x.place ≤ (m + (x - m) / ofNat k).place ∧ (m + (x - m) / ofNat k).place ≤ m.place) := by
  obtain ⟨up, down⟩ := toRat_div_count_between distance (place_sub hx hm) hk
  rw [place_add hm (isFinite_div_count distance (two_pos.trans_le hk))]
  rcases le_total 0 (x.toRat - m.toRat) with nonneg | nonpos
  · obtain ⟨low, high⟩ := up nonneg
    exact .inl (place_ofRat_between hm hx (by linarith) (by linarith))
  · obtain ⟨low, high⟩ := down nonpos
    exact .inr (place_ofRat_between hx hm (by linarith) (by linarith))

/-- What lies between two numbers has a finite distance to every number that these have one to. -/
theorem isFinite_sub_between {a b : Double} (ha : a.isFinite = true) (hb : b.isFinite = true)
    (hx : x.isFinite = true) (low : a.place ≤ m.place) (high : m.place ≤ b.place)
    (below : (x - a).isFinite = true) (above : (b - x).isFinite = true) :
    (x - m).isFinite = true := by
  have hm := isFinite_of_between ha hb low high
  have lo := toRat_mono low
  have hi := toRat_mono high
  rw [isFinite_sub_iff hx hm]
  rw [isFinite_sub_iff hx ha] at below
  rw [isFinite_sub_iff hb hx] at above
  rcases le_total 0 (x.toRat - m.toRat) with nonneg | nonpos
  · exact (toBits_mono nonneg (by linarith)).trans_lt below
  · rw [← toBits_neg]
    exact (toBits_mono (neg_nonneg.mpr nonpos) (by linarith)).trans_lt above

/-- The mean lies between two of the numbers. The induction is on the numbers taken so far, of which
the next one has finite distances to all. -/
theorem mean_between (close : Close xs) (some_number : xs ≠ []) :
    ∃ a ∈ xs, ∃ b ∈ xs, a.place ≤ (running xs).mean.place ∧ (running xs).mean.place ≤ b.place := by
  induction xs using List.reverseRecOn with
  | nil => exact absurd rfl some_number
  | append_singleton front x ih =>
      have last : x ∈ front ++ [x] := List.mem_append_right _ (List.mem_singleton.mpr rfl)
      have earlier {y : Double} (hy : y ∈ front) : y ∈ front ++ [x] := List.mem_append_left _ hy
      have hx := close.isFinite last
      have step : (running (front ++ [x])).mean = (running front).mean +
          (x - (running front).mean) / ofNat (front.length + 1) := mean_running_concat front x
      rw [step]
      by_cases first : front = []
      · subst first
        have same := place_first hx
        exact ⟨x, last, x, last, same.ge, same.le⟩
      · obtain ⟨a, ha, b, hb, low, high⟩ := ih (close.of_subset fun y hy => earlier hy) first
        have fa := close.isFinite (earlier ha)
        have fb := close.isFinite (earlier hb)
        have distance := isFinite_sub_between fa fb hx low high
          (close x last a (earlier ha)) (close b (earlier hb) x last)
        have two : 2 ≤ front.length + 1 := by
          have := List.length_pos_iff.mpr first
          omega
        rcases place_corrected_between (isFinite_of_between fa fb low high) hx distance
          two with ⟨up, down⟩ | ⟨up, down⟩
        · exact ⟨a, earlier ha, x, last, low.trans up, down⟩
        · exact ⟨x, last, b, earlier hb, up, down.trans high⟩

/-- The mean of numbers that are close to one another is a finite double. -/
theorem isFinite_mean (close : Close xs) (h : mean xs = some m) : m.isFinite = true := by
  have some_number : xs ≠ [] := by
    rintro rfl
    cases h
  obtain ⟨a, ha, b, hb, low, high⟩ := mean_between close some_number
  rw [mean_of_ne_nil some_number] at h
  cases h
  exact isFinite_of_between (close.isFinite ha) (close.isFinite hb) low high

/-! ## The median -/

/-- The median of finite numbers is a number. -/
theorem isNaN_median (finite : ∀ x ∈ xs, x.isFinite = true) (h : median xs = some m) :
    m.isNaN = false := by
  rcases median_eq_some h with mem | ⟨x, hx, y, hy, rfl⟩
  · exact isNaN_of_isFinite (finite m mem)
  · exact isNaN_div_count (isNaN_add (finite x hx) (finite y hy)) two_pos
      (isFinite_ofNat (by norm_num))

end Speedup.Sample
