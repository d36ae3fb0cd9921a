import Mathlib.Data.Finset.Max
import Speedup.Proofs.Comparison.KeyOrder

/-!
# Dense ranks

A dense rank counts the distinct levels above a row: `above`. The loop that numbers rows looks
at neighbours only, so it counts what it should just where the rows are in order
(`number_eq_map`); the invariant is that the current rank is the number of levels seen so far,
the last of which is the level of the row before.
-/

namespace Speedup.Ranked

/-! ## How many values are above -/

section Above

variable {α : Type} [LinearOrder α] {values : Finset α} {a b : α}

/-- The number of values above one. -/
def above (values : Finset α) (a : α) : Nat := (values.filter (a < ·)).card

theorem above_le_of_le (h : a ≤ b) : above values b ≤ above values a := by
  refine Finset.card_le_card ?_
  intro c hc
  rw [Finset.mem_filter] at hc ⊢
  exact ⟨hc.1, lt_of_le_of_lt h hc.2⟩

/-- What is higher has fewer values above it, for it is above the lower one itself. -/
theorem above_lt_of_lt (hb : b ∈ values) (h : a < b) : above values b < above values a := by
  refine Finset.card_lt_card (Finset.ssubset_iff_of_subset ?_ |>.mpr ⟨b, ?_, ?_⟩)
  · intro c hc
    rw [Finset.mem_filter] at hc ⊢
    exact ⟨hc.1, h.trans hc.2⟩
  · exact Finset.mem_filter.mpr ⟨hb, h⟩
  · simp

theorem above_eq_iff (ha : a ∈ values) (hb : b ∈ values) :
    above values a = above values b ↔ a = b := by
  constructor
  · intro h
    rcases lt_trichotomy a b with less | same | more
    · exact absurd h (above_lt_of_lt hb less).ne'
    · exact same
    · exact absurd h (above_lt_of_lt ha more).ne
  · rintro rfl
    rfl

/-- Counts have no gap: the least of the values above has one value less above it. -/
theorem exists_above_succ {n : Nat} (h : above values a = n + 1) :
    ∃ b ∈ values, above values b = n := by
  have nonempty : (values.filter (a < ·)).Nonempty := by
    rw [← Finset.card_pos]
    show 0 < above values a
    omega
  let b := (values.filter (a < ·)).min' nonempty
  have hb : b ∈ values.filter (a < ·) := Finset.min'_mem _ nonempty
  have rest : values.filter (b < ·) = (values.filter (a < ·)).erase b := by
    ext c
    simp only [Finset.mem_erase, Finset.mem_filter]
    constructor
    · rintro ⟨hc, less⟩
      exact ⟨less.ne', hc, (Finset.mem_filter.mp hb).2.trans less⟩
    · rintro ⟨ne, hc, less⟩
      have least := Finset.min'_le _ c (Finset.mem_filter.mpr ⟨hc, less⟩)
      exact ⟨hc, lt_of_le_of_ne least (Ne.symm ne)⟩
  refine ⟨b, (Finset.mem_filter.mp hb).1, ?_⟩
  rw [above, rest, Finset.card_erase_of_mem hb]
  show above values a - 1 = n
  omega

theorem exists_above_eq {n : Nat} (ha : a ∈ values) (h : n ≤ above values a) :
    ∃ b ∈ values, above values b = n := by
  induction h using Nat.decreasingInduction with
  | self => exact ⟨a, ha, rfl⟩
  | of_succ k _ ih =>
      obtain ⟨b, _, hb⟩ := ih
      exact exists_above_succ hb

/-- A top value is above every other one. -/
theorem above_insert_of_lt {top : α} (h : a < top) (new : top ∉ values) :
    above (insert top values) a = above values a + 1 := by
  rw [above, Finset.filter_insert, if_pos h, Finset.card_insert_of_notMem]
  · rfl
  · exact fun hmem => new (Finset.mem_filter.mp hmem).1

theorem above_eq_zero {top : α} (h : ∀ b ∈ values, b ≤ top) : above values top = 0 := by
  rw [above, Finset.card_eq_zero, Finset.filter_eq_empty_iff]
  exact fun b hb => not_lt.mpr (h b hb)

end Above

/-! ## The numbering loop -/

def levels (rows : List Ranked) : Finset (WithBot ℤ ×ₗ WithBot ℤ ×ₗ WithBot ℤ) :=
  (rows.map (·.key.level)).toFinset

theorem mem_levels {rows : List Ranked} {r : Ranked} (h : r ∈ rows) : r.key.level ∈ levels rows :=
  List.mem_toFinset.mpr (List.mem_map.mpr ⟨r, h, rfl⟩)

theorem exists_of_mem_levels {rows : List Ranked} {l} (h : l ∈ levels rows) :
    ∃ r ∈ rows, r.key.level = l := by
  rw [levels, List.mem_toFinset, List.mem_map] at h
  exact h

theorem levels_cons (r : Ranked) (rows : List Ranked) :
    levels (r :: rows) = insert r.key.level (levels rows) := by
  simp [levels]

theorem levels_perm {rows rows' : List Ranked} (h : rows.Perm rows') :
    levels rows = levels rows' :=
  List.toFinset_eq_of_perm _ _ (h.map _)

/-- Rows with the best first. -/
def BestFirst (rows : List Ranked) : Prop :=
  rows.Pairwise fun a b => b.key.level ≤ a.key.level

theorem BestFirst.le_head {first : Ranked} {rest : List Ranked} (h : BestFirst (first :: rest)) :
    ∀ l ∈ levels (first :: rest), l ≤ first.key.level := by
  intro l hl
  obtain ⟨r, hr, rfl⟩ := exists_of_mem_levels hl
  rcases List.mem_cons.mp hr with rfl | hr
  · exact le_rfl
  · exact (List.pairwise_cons.mp h).1 r hr

/-- The loop after some rows, the last of which has the key `previous`: a row's rank is the
current rank and one for every level above it from that of `previous` on. -/
theorem number_eq_map {rows : List Ranked} {current : Nat} {previous : Key}
    (sorted : BestFirst rows) (below : ∀ r ∈ rows, r.key.level ≤ previous.level) :
    number current (some previous) rows = rows.map fun r =>
      { r with rank := current + above (insert previous.level (levels rows)) r.key.level } := by
  induction rows generalizing current previous with
  | nil => rfl
  | cons first rest ih =>
      obtain ⟨head, tail⟩ := List.pairwise_cons.mp sorted
      have top := sorted.le_head
      rw [levels_cons] at top
      rcases (below first List.mem_cons_self).eq_or_lt with same | less
      · -- a tie: neither the current rank nor the set of levels changes
        have tie : (Key.order previous first.key == .eq) = true := by
          rw [Key.order_eq_compare, same, compare_eq_iff_eq.mpr rfl]
          rfl
        rw [number, Option.any_some, if_pos tie, ih tail head, levels_cons, ← same,
          Finset.insert_idem, List.map_cons, above_eq_zero top]
        rfl
      · -- a new level below the last one: it raises the rank now and counts for all later rows
        have differ : ¬ (Key.order previous first.key == .eq) = true := by
          rw [Key.order_eq_compare, compare_lt_iff_lt.mpr less]
          simp
        have new : previous.level ∉ insert first.key.level (levels rest) :=
          fun hmem => absurd (top _ hmem) (not_le.mpr less)
        rw [number, Option.any_some, if_neg differ, ih tail head, levels_cons, List.map_cons,
          above_insert_of_lt less new, above_eq_zero top]
        refine congrArg₂ _ rfl (List.map_congr_left ?_)
        intro r hr
        rw [above_insert_of_lt ((head r hr).trans_lt less) new, Nat.add_right_comm, Nat.add_assoc]

/-- On rows in order, the loop gives every row one more than the number of levels above it. -/
theorem number_zero_eq_map {rows : List Ranked} (sorted : BestFirst rows) :
    number 0 none rows = rows.map fun r =>
      { r with rank := above (levels rows) r.key.level + 1 } := by
  cases rows with
  | nil => rfl
  | cons first rest =>
      obtain ⟨head, tail⟩ := List.pairwise_cons.mp sorted
      have top := sorted.le_head
      rw [levels_cons] at top
      rw [number, Option.any_none, if_neg Bool.false_ne_true, number_eq_map tail head,
        levels_cons, List.map_cons, above_eq_zero top]
      simp only [Nat.add_comm]

end Speedup.Ranked
