import Speedup.Proofs.Text.Digits
import Speedup.Tables

/-!
# Numbers in cells

A number is written as a text that begins with a digit, a sign or the `i` of infinity
(`head?_text`). So a cell with a number in it is not empty and not the text of a NaN, and an
undefined number can be told from all others by an empty cell (`Shows`).
-/

namespace Speedup

/-! ## How numbers begin -/

namespace Decimal

variable {ds : List Char} {d : Char} {place : Int}

theorem head?_positional (begins : ds.head? = some d) (pointZero : Bool) (place : Int) :
    ∃ c ∈ ['0', d], (positional pointZero ds place).head? = some c := by
  cases ds with
  | nil => cases begins
  | cons d' rest =>
      cases begins
      unfold positional
      split
      · exact ⟨'0', by simp, rfl⟩
      next above =>
        have keeps : place.toNat = (place.toNat - 1) + 1 := by omega
        split
        · rw [keeps]
          exact ⟨d, by simp, rfl⟩
        · exact ⟨d, by simp, rfl⟩

theorem head?_scientific (begins : ds.head? = some d) (place : Int) :
    (scientific ds place).head? = some d := by
  match ds, begins with
  | [_], rfl => rfl
  | _ :: _ :: _, rfl => rfl

/-- A number begins with a digit, its sign or the `i` of infinity. -/
theorem head?_text (s : Style) {x : Double} (number : x.isNaN = false) :
    ∃ c, (s.text x).toList.head? = some c ∧ (c.isDigit = true ∨ c = '-' ∨ c = 'i') := by
  unfold Style.text
  rw [number, if_neg Bool.false_ne_true, String.toList_ofList]
  cases x.negative with
  | true => exact ⟨'-', rfl, .inr (.inl rfl)⟩
  | false =>
      rw [if_neg Bool.false_ne_true]
      split
      · exact ⟨'i', rfl, .inr (.inr rfl)⟩
      split
      · exact ⟨'0', rfl, .inl rfl⟩
      dsimp only
      obtain ⟨d, rest, begins⟩ :=
        List.exists_cons_of_ne_nil (Text.digits_ne_nil (shortest x).digits)
      have digit : d.isDigit = true :=
        Text.isDigit_of_mem_digits (begins ▸ List.mem_cons_self)
      have first : (Text.digits (shortest x).digits).head? = some d := by rw [begins]; rfl
      split
      · obtain ⟨c, hc, head⟩ := head?_positional first s.pointZero
          ((Text.digits (shortest x).digits).length + (shortest x).exponent)
        refine ⟨c, head, .inl ?_⟩
        rcases List.mem_pair.mp hc with rfl | rfl
        · rfl
        · exact digit
      · exact ⟨d, head?_scientific first _, .inl digit⟩

end Decimal

namespace Tables

variable {x : Double}

theorem number_ne_empty (h : x.isNaN = false) : number x ≠ "" := by
  obtain ⟨c, head, _⟩ := Decimal.head?_text .cell h
  intro empty
  rw [number] at empty
  rw [empty] at head
  cases head

theorem number_ne_nan (h : x.isNaN = false) : number x ≠ "NaN" := by
  obtain ⟨c, head, begins⟩ := Decimal.head?_text .cell h
  intro nan
  rw [number] at nan
  rw [nan] at head
  obtain rfl : 'N' = c := Option.some_inj.mp head
  revert begins
  decide

/-- How a cell shows a number: it is empty just where the number is undefined, and has the text of
every other number. It is never that of a NaN. -/
structure Shows (cell : Option String) (x : Double) : Prop where
  ne_nan : cell ≠ some "NaN"
  eq_empty_iff : cell = some "" ↔ x.isNaN = true
  eq_number : x.isNaN = false → cell = some (number x)

theorem shows_number (h : x.isNaN = false) : Shows (some (number x)) x where
  ne_nan same := number_ne_nan h (Option.some_inj.mp same)
  eq_empty_iff := by
    rw [h, Option.some_inj]
    exact iff_of_false (number_ne_empty h) Bool.false_ne_true
  eq_number _ := rfl

theorem shows_defined (x : Double) : Shows (some (defined x)) x := by
  unfold defined
  cases h : x.isNaN with
  | true =>
      rw [if_pos rfl]
      refine ⟨by decide, iff_of_true rfl h, fun number => ?_⟩
      rw [h] at number
      cases number
  | false => exact shows_number h

/-- The cell of a record under a heading. -/
def under (header record : List String) (name : String) : Option String :=
  (header.zip record).lookup name

end Tables

end Speedup
