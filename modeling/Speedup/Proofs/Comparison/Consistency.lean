import Speedup.Proofs.Comparison.Standings

/-!
# Keys in a consistent order

A sort relies on comparisons that do not contradict one another (`Consistent`). Those of ranking
keys do not, whatever NaNs and zeros there are in them: they tell who outranks whom, and that is
the order of levels turned around. So the rows of a ranking can be numbered beforehand, such that
each comparison the sort may make is that of two natural numbers (`order_eq_compare_above`).
-/

namespace Speedup.Ranked

/-- Comparisons that do not contradict one another. -/
structure Consistent {α : Type} (cmp : α → α → Ordering) : Prop where
  self : ∀ a, cmp a a = .eq
  swap : ∀ a b, cmp b a = (cmp a b).swap
  lt_trans : ∀ a b c, cmp a b = .lt → cmp b c = .lt → cmp a c = .lt
  eq_trans : ∀ a b c, cmp a b = .eq → cmp b c = .eq → cmp a c = .eq
  /-- What ties compares alike with everything, on either side. -/
  alike : ∀ a b c, cmp a b = .eq → cmp a c = cmp b c ∧ cmp c a = cmp c b

theorem consistent_of_transCmp {α : Type} (cmp : α → α → Ordering) [Std.TransCmp cmp] :
    Consistent cmp where
  self _ := Std.ReflCmp.compare_self
  swap _ _ := Std.OrientedCmp.eq_swap
  lt_trans _ _ _ := Std.TransCmp.lt_trans
  eq_trans _ _ _ := Std.TransCmp.eq_trans
  alike _ _ _ tie := ⟨Std.TransCmp.congr_left tie, Std.TransCmp.congr_right tie⟩

/-! ## The comparisons of a sort -/

variable {rows : List Ranked} {a b : Ranked}

/-- Two rows compare as the numbers of levels above them do. -/
theorem order_eq_compare_above (ha : a ∈ rows) (hb : b ∈ rows) :
    a.key.order b.key =
      compare (above (levels rows) a.key.level) (above (levels rows) b.key.level) := by
  rw [Key.order_eq_compare]
  rcases lt_trichotomy b.key.level a.key.level with less | same | more
  · rw [compare_lt_iff_lt.mpr less, compare_lt_iff_lt.mpr (above_lt_of_lt (mem_levels ha) less)]
  · rw [same, compare_eq_iff_eq.mpr rfl, compare_eq_iff_eq.mpr rfl]
  · rw [compare_gt_iff_gt.mpr more, compare_gt_iff_gt.mpr (above_lt_of_lt (mem_levels hb) more)]

/-- No row of standings compares as greater than one behind it. -/
theorem pairwise_order_standings (rows : List Ranked) :
    (standings rows).Pairwise fun a b => a.key.order b.key ≠ .gt := by
  refine (bestFirst_standings rows).imp ?_
  intro a b best
  rwa [← bne_iff_ne, order_bne_gt_iff]

/-- The comparison of keys tells which of them outranks the other, if any does, and is consistent
on all keys. Whatever rows are sorted by it, all comparisons of them are those of numbers that are
given to the rows beforehand, and the sorted rows are in order. -/
theorem order_consistent :
    (∀ a b : Key, (a.order b = .lt ↔ a.Outranks b) ∧ (a.order b = .eq ↔ a.Ties b) ∧
      (a.order b = .gt ↔ b.Outranks a)) ∧
    Consistent Key.order ∧
    ∀ rows : List Ranked,
      (∃ place : Ranked → Nat, ∀ a ∈ rows, ∀ b ∈ rows,
        a.key.order b.key = compare (place a) (place b)) ∧
      (standings rows).Pairwise fun a b => a.key.order b.key ≠ .gt := by
  refine ⟨?_, consistent_of_transCmp Key.order, ?_⟩
  · intro a b
    exact ⟨Key.order_eq_lt_iff, Key.order_eq_eq_iff, Key.order_eq_gt_iff⟩
  · intro rows
    refine ⟨⟨fun r => above (levels rows) r.key.level, ?_⟩, pairwise_order_standings rows⟩
    intro a ha b hb
    exact order_eq_compare_above ha hb

/-- Keys that differ in the signs of a NaN and of a zero tie, and both are better than a key that
holds a NaN more. -/
theorem order_consistent_undefined :
    let a : Key := ⟨.nan false, .zero false, 1⟩
    let b : Key := ⟨.nan true, .zero true, 1⟩
    let c : Key := ⟨.nan true, .zero false, .nan false⟩
    let row (exe : String) (k : Key) : Ranked := ⟨0, exe, k.geoMean, k.median, k.winRate⟩
    (a.order b = .eq ∧ b.order c = .lt ∧ a.order c = .lt ∧ c.order a = .gt) ∧
      ∃ place : Ranked → Nat, place (row "a" a) = place (row "b" b) ∧
        place (row "b" b) < place (row "c" c) := by
  intro a b c row
  have tie : a.order b = .eq := by decide
  have better : b.order c = .lt := by decide
  obtain ⟨-, consistent, sorted⟩ := order_consistent
  have better' : a.order c = .lt := by rw [(consistent.alike a b c tie).1, better]
  have worse : c.order a = .gt := by rw [consistent.swap a c, better', Ordering.swap_lt]
  obtain ⟨⟨place, compared⟩, -⟩ := sorted [row "a" a, row "b" b, row "c" c]
  refine ⟨⟨tie, better, better', worse⟩, place, ?_, ?_⟩
  · rw [← compare_eq_iff_eq, ← compared _ (by simp) _ (by simp)]
    exact tie
  · rw [← compare_lt_iff_lt, ← compared _ (by simp) _ (by simp)]
    exact better

end Speedup.Ranked
