import Mathlib.Algebra.Ring.Nat
import Mathlib.Tactic.Positivity
import Mathlib.Tactic.Ring
import Speedup.Text.Digits

/-!
# Digits read back

The digits of a number have its value, and no other characters are among them. So a whole number of
64 bits is read back from its digits, the lowest one and the highest one included (`int64?_repr`).
-/

namespace Speedup.Text

variable {c : Char} {n : Nat}

/-! ## Runs of digits -/

theorem isDigit_of_mem_digits (h : c ∈ digits n) : c.isDigit = true :=
  Nat.isDigit_of_mem_toDigits (by decide) (by decide) h

theorem isDigit_of_mem_replicate {k : Nat} (h : c ∈ List.replicate k '0') : c.isDigit = true := by
  rw [List.eq_of_mem_replicate h]
  decide

theorem digits_ne_nil (n : Nat) : digits n ≠ [] := Nat.toDigits_ne_nil

/-- A number has at most `k` digits if it is below the power of ten with `k` zeros. -/
theorem length_digits_le_iff {k : Nat} (hn : 0 < n) : (digits n).length ≤ k ↔ n < 10 ^ k := by
  rcases k.eq_zero_or_pos with rfl | hk
  · have some : 0 < (digits n).length := List.length_pos_iff.mpr (digits_ne_nil n)
    omega
  · exact Nat.length_toDigits_le_iff (by decide) hk

theorem length_digits_mul_pow (hn : 0 < n) (k : Nat) :
    (digits (n * 10 ^ k)).length = (digits n).length + k := by
  apply eq_of_forall_ge_iff
  intro j
  rw [length_digits_le_iff (by positivity)]
  rcases Nat.lt_or_ge j k with less | more
  · have larger : 10 ^ j < 10 ^ k := Nat.pow_lt_pow_right (by decide) less
    have least : 10 ^ k ≤ n * 10 ^ k := Nat.le_mul_of_pos_left _ hn
    omega
  · obtain ⟨i, rfl⟩ := Nat.exists_eq_add_of_le' more
    rw [Nat.add_le_add_iff_right, length_digits_le_iff hn, Nat.pow_add]
    exact Nat.mul_lt_mul_right (by positivity)

theorem digitsValue_digits (n : Nat) : digitsValue 0 (digits n) = n := Nat.ofDigitChars_ten_toDigits

/-- Zeros behind a number multiply it. -/
theorem digitsValue_replicate (start k : Nat) :
    digitsValue start (List.replicate k '0') = start * 10 ^ k := by
  induction k generalizing start with
  | zero => simp
  | succ k ih =>
      rw [List.replicate_succ]
      show digitsValue (10 * start + 0) (List.replicate k '0') = _
      rw [ih]
      ring

theorem spanDigits_append_of_isDigit {ds : List Char} (all : ∀ c ∈ ds, c.isDigit = true)
    (rest : List Char) (stop : ∀ c, rest.head? = some c → c.isDigit = false) :
    spanDigits (ds ++ rest) = (ds, rest) := by
  have left : rest.takeWhile Char.isDigit = [] ∧ rest.dropWhile Char.isDigit = rest := by
    cases rest with
    | nil => exact ⟨rfl, rfl⟩
    | cons c rest =>
        have other := stop c rfl
        exact ⟨List.takeWhile_cons_of_neg (by simp [other]),
          List.dropWhile_cons_of_neg (by simp [other])⟩
  rw [spanDigits, List.takeWhile_append_of_pos all, List.dropWhile_append_of_pos all, left.1,
    left.2, List.append_nil]

theorem spanDigits_of_isDigit {ds : List Char} (all : ∀ c ∈ ds, c.isDigit = true) :
    spanDigits ds = (ds, []) := by
  rw [← spanDigits_append_of_isDigit all [] nofun, List.append_nil]

theorem toLower_of_isDigit (h : c.isDigit = true) : c.toLower = c := by
  simp only [Char.isDigit, Bool.and_eq_true, decide_eq_true_eq] at h
  have no_upper : ¬ (65 ≤ c.val ∧ c.val ≤ 90) := fun upper =>
    absurd (UInt32.le_trans upper.1 h.2) (by decide)
  exact dif_neg no_upper

/-! ## Numbers of 64 bits -/

theorem natBelow?_digits {limit : Nat} (h : n < limit) : natBelow? limit (digits n) = some n := by
  have some : (digits n).isEmpty = false := by simpa using digits_ne_nil n
  have all : (digits n).all Char.isDigit = true :=
    List.all_eq_true.mpr fun c hc => isDigit_of_mem_digits hc
  rw [natBelow?, digitsValue_digits, some, all, if_pos (by simpa using h)]

theorem int64?_digits (h : n < UInt64.size / 2) : int64? (digits n) = some (n : Int) := by
  have unsigned {c : Char} {rest : List Char} (first : digits n = c :: rest) : c.isDigit = true :=
    isDigit_of_mem_digits (n := n) (by rw [first]; exact List.mem_cons_self)
  unfold int64?
  split
  next first => exact absurd (unsigned first) (by decide)
  next first => exact absurd (unsigned first) (by decide)
  next => rw [natBelow?_digits h, Option.map_some, Int.ofNat_eq_natCast]

/-- Every number of 64 bits is read back from its digits. -/
theorem int64?_repr {n : Int} (low : -2 ^ 63 ≤ n) (high : n < 2 ^ 63) :
    int64? (Int.repr n).toList = some n := by
  have size : UInt64.size / 2 = 2 ^ 63 := by decide
  cases n with
  | ofNat n =>
      show int64? (Nat.repr n).toList = _
      rw [Nat.toList_repr]
      rw [Int.ofNat_eq_natCast] at high
      apply int64?_digits
      rw [size]
      omega
  | negSucc n =>
      have text : (Int.repr (.negSucc n)).toList = '-' :: digits (n + 1) := by
        show ("-" ++ Nat.repr (n + 1)).toList = _
        rw [String.toList_append, Nat.toList_repr]
        rfl
      have below : n + 1 < UInt64.size / 2 + 1 := by
        rw [size]
        omega
      rw [text, int64?, natBelow?_digits below]
      rfl

end Speedup.Text
