import Speedup.Proofs.Collapsed
import Speedup.Proofs.Decimal.Nearest
import Speedup.Proofs.ObservationTable.Acceptance

/-!
# Cells of whole numbers

A whole number of 64 bits in plain digits is read exactly. Any other number is rounded to a double
first and taken for a whole number if the double is one, within 64 bits. So it is read exactly or
not at all where rounding makes no other whole number of it (`Kept`), which holds for every number
of 64 bits that is a double, and for whole numbers below `2 ^ 53` in particular. Observations of
different input sizes or invocations are then not collapsed into one (`whole_numbers_exact`).
-/

namespace Speedup.ObservationTable

open Decimal

variable {text : String} {r r' : ℚ} {n : ℤ}

/-! ## Numbers that rounding keeps -/

/-- Rounding to a double makes no whole number of a number but itself, and none beyond 64 bits. -/
def Kept (r : ℚ) : Prop :=
  ∀ w : ℤ, (Double.ofRat r).value? = some (w : ℚ) → (w : ℚ) = r ∧ -2 ^ 63 ≤ w ∧ w < 2 ^ 63

theorem kept_of_value? {x : Double} (h : x.value? = some r) (low : -2 ^ 63 ≤ r)
    (high : r < 2 ^ 63) : Kept r := by
  intro w value
  rw [Double.value?_ofRat h, Option.some.injEq] at value
  subst value
  exact ⟨rfl, by exact_mod_cast low, by exact_mod_cast high⟩

theorem kept_intCast (h : n.natAbs < 2 ^ 53) : Kept n := by
  refine kept_of_value? (Double.value?_ofRat_intCast h) ?_ ?_
  · exact_mod_cast (by omega : -2 ^ 63 ≤ n)
  · exact_mod_cast (by omega : n < 2 ^ 63)

/-! ## One cell -/

/-- A text is a whole number of 64 bits in plain digits. -/
def IsPlain (text : String) : Prop := ∃ n, Whole text.toList n ∧ -2 ^ 63 ≤ n ∧ n < 2 ^ 63

/-- What is read of a number: itself if it is in plain digits, and else its double if this is
whole. -/
theorem integer?_iff_of_denotes (h : Denotes text.toList r) : integer? text = some n ↔
    (Whole text.toList n ∧ -2 ^ 63 ≤ n ∧ n < 2 ^ 63) ∨
      ¬ IsPlain text ∧ ∃ w : ℤ, (Double.ofRat r).value? = some (w : ℚ) ∧ n = Double.within64 w := by
  obtain ⟨x, parsed, nearest⟩ := exists_parse?_of_denotes h
  have plain : Text.int64? text.toList = none ↔ ¬ IsPlain text := by
    simp only [Option.eq_none_iff_forall_ne_some, ne_eq, int64?_eq_some_iff, IsPlain, not_exists]
  rw [integer?_eq_some_iff, IsInteger, int64?_eq_some_iff, plain]
  refine or_congr_right (and_congr_right fun _ => ?_)
  rw [← nearest, ← Double.whole_iff]
  simp [parsed]

theorem exists_denotes_of_integer? (h : integer? text = some n) :
    ∃ r, Denotes text.toList r := by
  rcases integer?_eq_some_iff.mp h with plain | ⟨_, x, parsed, finite, _⟩
  · exact ⟨n, (int64?_eq_some_iff.mp plain).1.denotes⟩
  · exact exists_denotes_of_parse? parsed finite

/-- A number in plain digits, or one that rounding keeps, is read exactly or not at all. -/
theorem integer?_iff_of_kept (h : Denotes text.toList r) (kept : IsPlain text ∨ Kept r) :
    integer? text = some n ↔ (n : ℚ) = r ∧ -2 ^ 63 ≤ n ∧ n < 2 ^ 63 := by
  have itself {m : ℤ} (whole : Whole text.toList m) : (m : ℚ) = r := whole.denotes.unique h
  rw [integer?_iff_of_denotes h]
  constructor
  · rintro (⟨whole, range⟩ | ⟨no_plain, w, value, rfl⟩)
    · exact ⟨itself whole, range⟩
    · obtain ⟨same, low, high⟩ := kept.resolve_left no_plain w value
      rw [Double.within64_of_mem low high]
      exact ⟨same, low, high⟩
  · rintro ⟨rfl, low, high⟩
    by_cases plain : IsPlain text
    · obtain ⟨m, whole, range⟩ := plain
      obtain rfl : m = n := by exact_mod_cast itself whole
      exact .inl ⟨whole, range⟩
    · refine .inr ⟨plain, ?_⟩
      obtain ⟨w, value⟩ := Double.exists_value?_ofRat_intCast low high.le
      obtain ⟨same, -⟩ := kept.resolve_left plain w value
      obtain rfl : w = n := by exact_mod_cast same
      exact ⟨w, value, (Double.within64_of_mem low high).symm⟩

/-! ## Two records -/

/-- Two texts denote different numbers, and both are in plain digits or kept by rounding. -/
def Differ (text text' : String) : Prop :=
  ∃ r r', Denotes text.toList r ∧ Denotes text'.toList r' ∧ r ≠ r' ∧
    (IsPlain text ∨ Kept r) ∧ (IsPlain text' ∨ Kept r')

/-- Different numbers are read as different ones, unless neither is read. -/
theorem integer?_ne_of_differ {text' : String} (h : Differ text text')
    (read : (integer? text).isSome ∨ (integer? text').isSome) : integer? text ≠ integer? text' := by
  obtain ⟨r, r', denotes, denotes', ne, kept, kept'⟩ := h
  intro same
  obtain ⟨n, first⟩ : ∃ n, integer? text = some n := by
    rw [← same, or_self] at read
    exact Option.isSome_iff_exists.mp read
  have second : integer? text' = some n := same ▸ first
  have number := ((integer?_iff_of_kept denotes kept).mp first).1
  have number' := ((integer?_iff_of_kept denotes' kept').mp second).1
  exact ne (number.symm.trans number')

/-- Observations of different series with values have a row each among the collapsed medians. -/
theorem exists_rows_of_series_ne {rows : List Observation} {a b : Observation} (ha : a ∈ rows)
    (hb : b ∈ rows) (value : a.value.isSome) (value' : b.value.isSome)
    (ne : Collapsed.series a ≠ Collapsed.series b) :
    ∃ x ∈ Collapsed.ofRows rows, ∃ y ∈ Collapsed.ofRows rows,
      x.measured = Collapsed.series a ∧ y.measured = Collapsed.series b ∧ x ≠ y := by
  have measured := (Collapsed.collapses_ofRows rows).mem_measured
  obtain ⟨x, hx, of_a⟩ := List.mem_map.mp ((measured _).mpr ⟨a, ha, rfl, value⟩)
  obtain ⟨y, hy, of_b⟩ := List.mem_map.mp ((measured _).mpr ⟨b, hb, rfl, value'⟩)
  refine ⟨x, hx, y, hy, of_a, of_b, ?_⟩
  rintro rfl
  exact ne (of_a.symm.trans of_b)

/-- A cell of whole numbers that is read denotes one number, and it is read as this number and no
other if it is in plain digits or rounding keeps it. Where two records have different such numbers,
at least one of which is read, for their input sizes, they are of different series, and each of
these has a row of its own among the collapsed medians; with different invocations they are in
different groups of the first pass. -/
theorem whole_numbers_exact (text text' : String) :
    (∀ n, integer? text = some n → ∃! r, Denotes text.toList r) ∧
    (∀ r, Denotes text.toList r → IsPlain text ∨ Kept r →
      ∀ n, integer? text = some n ↔ (n : ℚ) = r ∧ -2 ^ 63 ≤ n ∧ n < 2 ^ 63) ∧
    (Differ text text' → (integer? text).isSome ∨ (integer? text').isSome →
      ∀ columns cells cells',
        let a := observation columns cells
        let b := observation columns cells'
        (cell columns cells "inputsize" = text → cell columns cells' "inputsize" = text' →
          Collapsed.series a ≠ Collapsed.series b ∧
            ∀ rows, a ∈ rows → b ∈ rows → a.value.isSome → b.value.isSome →
              ∃ x ∈ Collapsed.ofRows rows, ∃ y ∈ Collapsed.ofRows rows,
                x.measured = Collapsed.series a ∧ y.measured = Collapsed.series b ∧ x ≠ y) ∧
        (cell columns cells "invocation" = text → cell columns cells' "invocation" = text' →
          Collapsed.inInvocation a ≠ Collapsed.inInvocation b)) := by
  refine ⟨?_, fun r denotes kept n => integer?_iff_of_kept denotes kept, ?_⟩
  · intro n read
    obtain ⟨r, denotes⟩ := exists_denotes_of_integer? read
    exact ⟨r, denotes, fun r' other => other.unique denotes⟩
  · intro differ read columns cells cells' a b
    have apart := integer?_ne_of_differ differ read
    constructor
    · rintro rfl rfl
      have ne : Collapsed.series a ≠ Collapsed.series b := fun same =>
        apart (congrArg (·.second.second.second) same)
      exact ⟨ne, fun rows ha hb value value' => exists_rows_of_series_ne ha hb value value' ne⟩
    · rintro rfl rfl same
      exact apart (congrArg (·.second) same)

/-- The number after `2 ^ 53` is no double, and beyond 64 bits the last number is taken. -/
example : integer? "9007199254740993.0" = some 9007199254740992 := by decide +kernel
example : integer? "1e300" = some (2 ^ 63 - 1) := by decide +kernel

/-- Two large input sizes, one of them with a point and the other one with an exponent, and
invocations of which only one is a whole number. -/
theorem whole_numbers_exact_two :
    let columns := ["value", "inputsize", "invocation"]
    let a := observation columns ["1", "9007199254740991.0", "2.5"]
    let b := observation columns ["2", "900719925474099e1", "2"]
    (∃! r, Denotes "9007199254740991.0".toList r) ∧
      a.inputsize = some 9007199254740991 ∧ a.invocation = none ∧ b.invocation = some 2 ∧
      (∃ x ∈ Collapsed.ofRows [a, b], ∃ y ∈ Collapsed.ofRows [a, b],
        x.measured = Collapsed.series a ∧ y.measured = Collapsed.series b ∧ x ≠ y) ∧
      Collapsed.inInvocation a ≠ Collapsed.inInvocation b := by
  intro columns a b
  have denotes {text : String} {d : Decimal} {r : ℚ} (read : read? text.toList = some (d, []))
      (value : d.toRat = r) : Denotes text.toList r :=
    value ▸ .mk .absent (read?_eq_some_iff.mp read)
  have pointed : Denotes "9007199254740991.0".toList (9007199254740991 : ℤ) :=
    denotes (d := ⟨90071992547409910, -1⟩) (by decide +kernel) (by norm_num [toRat])
  have scaled : Denotes "900719925474099e1".toList (9007199254740990 : ℤ) :=
    denotes (d := ⟨900719925474099, 1⟩) (by decide +kernel) (by norm_num [toRat])
  have half : Denotes "2.5".toList (5 / 2) :=
    denotes (d := ⟨25, -1⟩) (by decide +kernel) (by norm_num [toRat])
  have plain : Denotes "2".toList (2 : ℤ) :=
    denotes (d := ⟨2, 0⟩) (by decide +kernel) (by norm_num [toRat])
  have kept_half : Kept (5 / 2) :=
    kept_of_value? (x := Double.ofRat (5 / 2)) (by decide +kernel) (by norm_num) (by norm_num)
  obtain ⟨one_number, size, sizes⟩ := whole_numbers_exact "9007199254740991.0" "900719925474099e1"
  obtain ⟨-, -, invocations⟩ := whole_numbers_exact "2.5" "2"
  have read : integer? "9007199254740991.0" = some 9007199254740991 :=
    (size _ pointed (.inr (kept_intCast (by decide))) _).mpr ⟨rfl, by decide, by decide⟩
  have differ : Differ "9007199254740991.0" "900719925474099e1" :=
    ⟨_, _, pointed, scaled, by norm_num, .inr (kept_intCast (by decide)),
      .inr (kept_intCast (by decide))⟩
  have differ' : Differ "2.5" "2" :=
    ⟨_, _, half, plain, by norm_num, .inr kept_half, .inr (kept_intCast (by decide))⟩
  have some_size : (integer? "9007199254740991.0").isSome = true := by
    rw [read]
    rfl
  have some_invocation : (integer? "2").isSome = true := by decide +kernel
  have rows := ((sizes differ (.inl some_size) columns _ _).1 rfl rfl).2 [a, b]
    List.mem_cons_self (List.mem_cons_of_mem a List.mem_cons_self) (by decide +kernel)
    (by decide +kernel)
  exact ⟨one_number _ read, read, by decide +kernel, by decide +kernel, rows,
    (invocations differ' (.inr some_invocation) columns _ _).2 rfl rfl⟩

end Speedup.ObservationTable
