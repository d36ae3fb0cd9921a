import Mathlib.Data.List.Induction
import Mathlib.Order.Basic
import Mathlib.Order.Defs.LinearOrder
import Speedup.Proofs.Sample.Median

/-!
# The extremes of a sample

The least and the greatest of a sample are found by the same running choice, which a later number
changes only if it is better (`firstBest`). What comes of it is the first one of the best: all
before it are worse, and none behind it is better (`FirstLowest`). Numbers that do not count as
undefined are compared through a value in a linear order (`ReadsAs`): for doubles that is their
level. So the least of a sample is a member of it at the least level of all defined ones, and it
is missing only where none is defined.
-/

namespace Speedup.Sample

/-! ## The first best of a list -/

section FirstBest

variable {α β L : Type} [LinearOrder L] {better : α → α → Bool} {rank : α → L} {xs : List α}
  {a b : α}

/-- The best of a list by a running choice, the first one of several. -/
def firstBest (better : α → α → Bool) (xs : List α) : Option α :=
  xs.foldl (fun best x => some (best.elim x fun b => if better x b then x else b)) none

theorem firstBest_concat (better : α → α → Bool) (xs : List α) (x : α) :
    firstBest better (xs ++ [x]) =
      some ((firstBest better xs).elim x fun b => if better x b then x else b) := by
  rw [firstBest, List.foldl_append]
  rfl

theorem firstBest_eq_none_iff : firstBest better xs = none ↔ xs = [] := by
  induction xs using List.reverseRecOn with
  | nil => exact iff_of_true rfl rfl
  | append_singleton xs x _ => simp [firstBest_concat]

theorem mem_of_firstBest (h : firstBest better xs = some b) : b ∈ xs := by
  induction xs using List.reverseRecOn with
  | nil => cases h
  | append_singleton xs x ih =>
      rw [firstBest_concat, Option.some_inj] at h
      cases best : firstBest better xs with
      | none => simp [← h, best]
      | some a =>
          rw [best, Option.elim_some] at h
          split at h
          · simp [h]
          · exact List.mem_append_left _ (ih (h ▸ best))

/-- An element is the first one of those with the lowest rank. -/
def FirstLowest (rank : α → L) (b : α) (xs : List α) : Prop :=
  ∃ before after, xs = before ++ b :: after ∧ (∀ x ∈ before, rank b < rank x) ∧
    ∀ x ∈ after, rank b ≤ rank x

theorem FirstLowest.mem (h : FirstLowest rank b xs) : b ∈ xs := by
  obtain ⟨before, after, rfl, -, -⟩ := h
  simp

theorem FirstLowest.le (h : FirstLowest rank b xs) : ∀ x ∈ xs, rank b ≤ rank x := by
  obtain ⟨before, after, rfl, above, behind⟩ := h
  intro x hx
  rcases List.mem_append.mp hx with hx | hx
  · exact (above x hx).le
  · rcases List.mem_cons.mp hx with rfl | hx
    · exact le_rfl
    · exact behind x hx

theorem FirstLowest.unique (ha : FirstLowest rank a xs) (hb : FirstLowest rank b xs) : a = b := by
  -- of two places in a list one comes first, and the element there excludes a later one
  have first {a b : α} {before after before' after' between : List α}
      (behind : ∀ x ∈ after, rank a ≤ rank x) (above : ∀ x ∈ before', rank b < rank x)
      (front : before' = before ++ between) (back : a :: after = between ++ b :: after') :
      a = b := by
    cases between with
    | nil => exact (List.cons.inj back).1
    | cons c between =>
        obtain ⟨rfl, rfl⟩ := List.cons.inj back
        have le := behind b (by simp)
        have lt := above a (by simp [front])
        exact absurd lt (not_lt.mpr le)
  obtain ⟨before, after, rfl, above, behind⟩ := ha
  obtain ⟨before', after', same, above', behind'⟩ := hb
  rcases List.append_eq_append_iff.mp same with ⟨between, front, back⟩ | ⟨between, front, back⟩
  · exact first behind above' front back
  · exact (first behind' above front back).symm

/-- Where elements have ranks of their own it is just the lowest one. -/
theorem firstLowest_iff (injective : Function.Injective rank) :
    FirstLowest rank b xs ↔ b ∈ xs ∧ ∀ x ∈ xs, rank b ≤ rank x := by
  constructor
  · exact fun h => ⟨h.mem, h.le⟩
  · rintro ⟨mem, lowest⟩
    obtain ⟨before, after, rfl, first⟩ := List.eq_append_cons_of_mem mem
    refine ⟨before, after, rfl, fun x hx => ?_, fun x hx => lowest x (by simp [hx])⟩
    refine (lowest x (by simp [hx])).lt_of_ne fun same => first ?_
    rwa [injective same]

/-- What the running choice ends with is the first one of the lowest; the induction is on the list
from its end, where the next one is met. -/
theorem exists_firstLowest (reads : ∀ x ∈ xs, ∀ y ∈ xs, (better x y = true ↔ rank x < rank y))
    (some_element : xs ≠ []) : ∃ b, firstBest better xs = some b ∧ FirstLowest rank b xs := by
  induction xs using List.reverseRecOn with
  | nil => exact absurd rfl some_element
  | append_singleton xs x ih =>
      rw [firstBest_concat]
      by_cases first : xs = []
      · subst first
        exact ⟨x, rfl, [], [], rfl, by simp, by simp⟩
      obtain ⟨b, best, lowest⟩ := ih (fun x hx y hy => reads x (List.mem_append_left _ hx) y
        (List.mem_append_left _ hy)) first
      have compared := reads x (by simp) b (List.mem_append_left _ lowest.mem)
      rw [best, Option.elim_some]
      by_cases less : better x b = true
      · rw [if_pos less]
        have below := compared.mp less
        exact ⟨x, rfl, xs, [], rfl, fun y hy => below.trans_le (lowest.le y hy), by simp⟩
      · rw [if_neg less]
        obtain ⟨before, after, rfl, above, behind⟩ := lowest
        refine ⟨b, rfl, before, after ++ [x], by simp, above, fun y hy => ?_⟩
        rcases List.mem_append.mp hy with hy | hy
        · exact behind y hy
        · obtain rfl := List.mem_singleton.mp hy
          exact not_lt.mp (mt compared.mpr less)

theorem firstBest_eq_some_iff
    (reads : ∀ x ∈ xs, ∀ y ∈ xs, (better x y = true ↔ rank x < rank y)) :
    firstBest better xs = some b ↔ FirstLowest rank b xs := by
  constructor
  · intro h
    obtain ⟨a, best, lowest⟩ := exists_firstLowest reads (List.ne_nil_of_mem (mem_of_firstBest h))
    obtain rfl := Option.some_inj.mp (h.symm.trans best)
    exact lowest
  · intro h
    obtain ⟨a, best, lowest⟩ := exists_firstLowest reads (List.ne_nil_of_mem h.mem)
    rw [best, lowest.unique h]

/-- The first one of the lowest comes from some place, and it stays the first one among any part of
the places that has this one. -/
theorem FirstLowest.exists_place {f : β → Option α} {ys : List β}
    (h : FirstLowest rank b (ys.filterMap f)) :
    ∃ y ∈ ys, f y = some b ∧
      ∀ p : β → Bool, p y = true → FirstLowest rank b ((ys.filter p).filterMap f) := by
  obtain ⟨before, after, same, above, behind⟩ := h
  obtain ⟨front, back, rfl, rfl, rest_eq⟩ := List.filterMap_eq_append_iff.mp same
  obtain ⟨nothing, y, rest, rfl, none_there, here, rfl⟩ := List.filterMap_eq_cons_iff.mp rest_eq
  refine ⟨y, by simp, here, fun p py => ?_⟩
  refine ⟨(front.filter p).filterMap f, (rest.filter p).filterMap f, ?_, ?_, ?_⟩
  · have skipped : (nothing.filter p).filterMap f = [] :=
      List.filterMap_eq_nil_iff.mpr fun z hz => none_there z (List.mem_filter.mp hz).1
    simp [py, here, skipped]
  · exact fun x hx => above x ((List.filter_sublist.filterMap f).subset hx)
  · exact fun x hx => behind x ((List.filter_sublist.filterMap f).subset hx)

end FirstBest

/-! ## Samples -/

variable {α L : Type} [Measurable α] [LinearOrder L] {level : α → L} {xs : List α} {b : α}

/-- The order of defined numbers is that of their levels. -/
def ReadsAs (level : α → L) : Prop :=
  ∀ x y : α, Measurable.isUndefined x = false → Measurable.isUndefined y = false →
    (Measurable.less x y = true ↔ level x < level y)

def defined (xs : List α) : List α := xs.filter (!Measurable.isUndefined ·)

theorem mem_defined_iff : b ∈ defined xs ↔ b ∈ xs ∧ Measurable.isUndefined b = false := by
  simp [defined]

theorem defined_eq_nil_iff : defined xs = [] ↔ ∀ x ∈ xs, Measurable.isUndefined x = true := by
  simp [defined]

theorem least_eq_firstBest (xs : List α) : least xs = firstBest Measurable.less (defined xs) := by
  rw [least, defined, firstBest]
  refine congrArg (fun f => List.foldl f none _) ?_
  funext best x
  cases best <;> rfl

theorem greatest_eq_firstBest (xs : List α) :
    greatest xs = firstBest (fun x b => Measurable.less b x) (defined xs) := by
  rw [greatest, defined, firstBest]
  refine congrArg (fun f => List.foldl f none _) ?_
  funext best x
  cases best <;> rfl

theorem least_eq_some_iff (reads : ReadsAs level) :
    least xs = some b ↔ FirstLowest level b (defined xs) := by
  rw [least_eq_firstBest]
  exact firstBest_eq_some_iff fun x hx y hy =>
    reads x y (mem_defined_iff.mp hx).2 (mem_defined_iff.mp hy).2

/-- The greatest number is the first one at the lowest level if levels are turned around. -/
theorem greatest_eq_some_iff (reads : ReadsAs level) :
    greatest xs = some b ↔ FirstLowest (fun x => OrderDual.toDual (level x)) b (defined xs) := by
  rw [greatest_eq_firstBest]
  exact firstBest_eq_some_iff fun x hx y hy =>
    reads y x (mem_defined_iff.mp hy).2 (mem_defined_iff.mp hx).2

/-- The least number is a defined one that no other defined number is below. -/
theorem least_spec (reads : ReadsAs level) (h : least xs = some b) :
    (b ∈ xs ∧ Measurable.isUndefined b = false) ∧
      ∀ x ∈ xs, Measurable.isUndefined x = false → level b ≤ level x := by
  have lowest := (least_eq_some_iff reads).mp h
  exact ⟨mem_defined_iff.mp lowest.mem,
    fun x hx defd => lowest.le x (mem_defined_iff.mpr ⟨hx, defd⟩)⟩

theorem least_eq_none_iff : least xs = none ↔ ∀ x ∈ xs, Measurable.isUndefined x = true := by
  rw [least_eq_firstBest, firstBest_eq_none_iff, defined_eq_nil_iff]

theorem greatest_eq_none_iff :
    greatest xs = none ↔ ∀ x ∈ xs, Measurable.isUndefined x = true := by
  rw [greatest_eq_firstBest, firstBest_eq_none_iff, defined_eq_nil_iff]

theorem mem_of_greatest (h : greatest xs = some b) :
    b ∈ xs ∧ Measurable.isUndefined b = false := by
  rw [greatest_eq_firstBest] at h
  exact mem_defined_iff.mp (mem_of_firstBest h)

theorem readsAs_double : ReadsAs Double.level := by
  intro x y hx _
  show x.lt y = true ↔ _
  rw [Double.lt_iff_level]
  exact and_iff_right hx

/-! ## Parts of a sample -/

/-- An extreme of samples: the first one of the lowest rank, and a number that ranks last for a
sample without defined numbers. -/
structure Extreme (rank : Double → L) where
  pick : List Double → Option Double
  last : Double
  pick_eq_some_iff : ∀ xs b, pick xs = some b ↔ FirstLowest rank b (defined xs)
  pick_eq_none_iff : ∀ xs, pick xs = none ↔ defined xs = []
  le_last : ∀ x : Double, x.isNaN = false → rank x ≤ rank last

def minimum : Extreme Double.level where
  pick := least
  last := Double.infinity false
  pick_eq_some_iff _ _ := least_eq_some_iff readsAs_double
  pick_eq_none_iff _ := least_eq_none_iff.trans defined_eq_nil_iff.symm
  le_last x _ := Double.le_infinity x

def maximum : Extreme (fun x => OrderDual.toDual x.level) where
  pick := greatest
  last := Double.infinity true
  pick_eq_some_iff _ _ := greatest_eq_some_iff readsAs_double
  pick_eq_none_iff _ := greatest_eq_none_iff.trans defined_eq_nil_iff.symm
  le_last _ number := Double.neg_infinity_le number

namespace Extreme

variable {rank : Double → L} {β κ : Type} [DecidableEq κ] {f : β → Option Double} {ys : List β}

/-- The extreme of a sample, also of one without defined numbers. -/
def of (e : Extreme rank) (xs : List Double) : Double := (e.pick xs).getD e.last

theorem defined_filterMap (f : β → Option Double) (ys : List β) :
    defined (ys.filterMap f) = ys.filterMap fun y => (f y).filter (!Measurable.isUndefined ·) := by
  rw [defined, List.filter_filterMap]

/-- The extreme of a whole is that of one of its parts, the one where it comes from. -/
theorem exists_part (e : Extreme rank) (part : β → κ) (some_value : ys.filterMap f ≠ []) :
    ∃ y ∈ ys, (f y).isSome ∧
      e.of ((ys.filter fun z => part z = part y).filterMap f) = e.of (ys.filterMap f) := by
  unfold of
  cases whole : e.pick (ys.filterMap f) with
  | some b =>
      have lowest := (e.pick_eq_some_iff _ b).mp whole
      rw [defined_filterMap] at lowest
      obtain ⟨y, hy, here, stays⟩ := lowest.exists_place
      refine ⟨y, hy, by simp [(Option.filter_eq_some_iff.mp here).1], ?_⟩
      have own := stays (fun z => part z = part y) (by simp)
      rw [← defined_filterMap] at own
      rw [(e.pick_eq_some_iff _ b).mpr own]
  | none =>
      obtain ⟨x, hx⟩ := List.exists_mem_of_ne_nil _ some_value
      obtain ⟨y, hy, here⟩ := List.mem_filterMap.mp hx
      have nothing := (e.pick_eq_none_iff _).mp whole
      have own : e.pick ((ys.filter fun z => part z = part y).filterMap f) = none := by
        rw [e.pick_eq_none_iff, ← List.sublist_nil, ← nothing]
        exact (List.filter_sublist.filterMap f).filter _
      exact ⟨y, hy, by simp [here], by rw [own]⟩

/-- No part has a lower extreme than the whole. -/
theorem rank_le_part (e : Extreme rank) (p : β → Bool) :
    rank (e.of (ys.filterMap f)) ≤ rank (e.of ((ys.filter p).filterMap f)) := by
  have fewer := ((List.filter_sublist (p := p) (l := ys)).filterMap f).filter
    (!Measurable.isUndefined ·)
  unfold of
  cases whole : e.pick (ys.filterMap f) with
  | none =>
      have nothing := (e.pick_eq_none_iff _).mp whole
      rw [(e.pick_eq_none_iff _).mpr (List.sublist_nil.mp (nothing ▸ fewer))]
  | some b =>
      have lowest := (e.pick_eq_some_iff _ b).mp whole
      cases own : e.pick ((ys.filter p).filterMap f) with
      | none => exact e.le_last b (mem_defined_iff.mp lowest.mem).2
      | some c => exact lowest.le c (fewer.subset ((e.pick_eq_some_iff _ c).mp own).mem)

end Extreme

end Speedup.Sample

namespace Speedup.Stats

variable {xs : List Double} {s : Stats}

theorem min_eq (h : ofValues xs = some s) : s.min = Sample.minimum.of xs :=
  (eq_of_ofValues h).2.2.1

theorem max_eq (h : ofValues xs = some s) : s.max = Sample.maximum.of xs :=
  (eq_of_ofValues h).2.2.2.1

/-- The least value is a number, also where there is none. -/
theorem isNaN_min (h : ofValues xs = some s) : s.min.isNaN = false := by
  rw [(eq_of_ofValues h).2.2.1]
  cases least : Sample.least xs with
  | none => decide
  | some b => exact (Sample.least_spec Sample.readsAs_double least).1.2

theorem isNaN_max (h : ofValues xs = some s) : s.max.isNaN = false := by
  rw [(eq_of_ofValues h).2.2.2.1]
  cases greatest : Sample.greatest xs with
  | none => decide
  | some b => exact (Sample.mem_of_greatest greatest).2

end Speedup.Stats
