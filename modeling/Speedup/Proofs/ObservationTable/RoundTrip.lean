import Speedup.ObservationTable.Writer
import Speedup.Proofs.Decimal.RoundTrip
import Speedup.Proofs.ObservationTable.Acceptance

/-!
# Written tables are read back

A table of observations is read as the observations it was written for (`ofOctets_encode_text`), if
none of their texts has to be quoted or would be trimmed. Cells are written without quotes, so what
is written is what a writer with quotes would write (`text_eq_join_record`). Numbers have none of
the characters that need them, and no blanks, and each is read back from its digits.
-/

namespace Speedup.ObservationTable

open Text

/-- An observation that the plain form of a table can hold. -/
structure Writable (o : Observation) : Prop where
  plain : ∀ column ∈ textColumns, ∀ c ∈ (column.2 o).toList, Csv.isSpecial c = false
  bare : ∀ column ∈ textColumns, Bare (column.2 o)
  number : ∀ x, o.value = some x → x.isNaN = false
  integers : ∀ column ∈ integerColumns, ∀ n, column.2 o = some n → -2 ^ 63 ≤ n ∧ n < 2 ^ 63

/-! ## Characters of numbers -/

section Characters

variable {c : Char}

theorem isSpecial_of_number (h : c.isDigit = true ∨ c ∈ ['.', '-', 'i', 'n', 'f']) :
    Csv.isSpecial c = false := by
  have other (d : Char) (no : d.isDigit = false ∧ d ∉ ['.', '-', 'i', 'n', 'f']) : c ≠ d := by
    rintro rfl
    rcases h with digit | sign
    · rw [no.1] at digit
      cases digit
    · exact no.2 sign
  simp only [Csv.isSpecial, beq_false_of_ne (other ',' (by decide)),
    beq_false_of_ne (other '"' (by decide)), beq_false_of_ne (other '\r' (by decide)),
    beq_false_of_ne (other '\n' (by decide)), Bool.or_self]

theorem isBlank_of_number (h : c.isDigit = true ∨ c ∈ ['.', '-', 'i', 'n', 'f']) :
    isBlank c = false := by
  rcases h with digit | sign
  · exact isBlank_of_isDigit digit
  · simp only [List.mem_cons, List.not_mem_nil, or_false] at sign
    rcases sign with rfl | rfl | rfl | rfl | rfl <;> decide

theorem mem_repr {n : Int} (h : c ∈ (Int.repr n).toList) :
    c.isDigit = true ∨ c ∈ ['.', '-', 'i', 'n', 'f'] := by
  cases n with
  | ofNat n =>
      rw [show Int.repr (.ofNat n) = Nat.repr n from rfl, Nat.toList_repr] at h
      exact .inl (isDigit_of_mem_digits h)
  | negSucc n =>
      rw [show Int.repr (.negSucc n) = "-" ++ Nat.repr (n + 1) from rfl, String.toList_append,
        Nat.toList_repr] at h
      rcases List.mem_append.mp h with sign | digit
      · exact .inr (by simp_all)
      · exact .inl (isDigit_of_mem_digits digit)

end Characters

/-! ## Cells -/

section Cells

variable {o : Observation} {s : String}

theorem mem_cells (number : ∀ x, o.value = some x → x.isNaN = false) (h : s ∈ cells o) :
    (∃ column ∈ textColumns, s = column.2 o) ∨
      ∀ c ∈ s.toList, c.isDigit = true ∨ c ∈ ['.', '-', 'i', 'n', 'f'] := by
  have integer (n : Option Int) : ∀ c ∈ ((n.map Int.repr).getD "").toList,
      c.isDigit = true ∨ c ∈ ['.', '-', 'i', 'n', 'f'] := by
    cases n with
    | none => exact nofun
    | some n => exact fun c hc => mem_repr hc
  have value : ∀ c ∈ ((o.value.map Decimal.Style.plain.text).getD "").toList,
      c.isDigit = true ∨ c ∈ ['.', '-', 'i', 'n', 'f'] := by
    cases hx : o.value with
    | none => exact nofun
    | some x => exact fun c hc => Decimal.mem_text (number x hx) hc
  simp only [cells, List.mem_cons, List.not_mem_nil, or_false] at h
  rcases h with rfl | rfl | rfl | rfl | rfl | rfl | rfl | rfl | rfl | rfl
  · exact .inl ⟨("bench", (·.bench)), by simp [textColumns], rfl⟩
  · exact .inl ⟨("exe", (·.exe)), by simp [textColumns], rfl⟩
  · exact .inl ⟨("suite", (·.suite)), by simp [textColumns], rfl⟩
  · exact .inl ⟨("criterion", (·.criterion)), by simp [textColumns], rfl⟩
  · exact .inl ⟨("unit", (·.unit)), by simp [textColumns], rfl⟩
  · exact .inl ⟨("envid", (·.envid)), by simp [textColumns], rfl⟩
  · exact .inr value
  · exact .inr (integer _)
  · exact .inr (integer _)
  · exact .inr (integer _)

theorem plain_of_mem_cells (writable : Writable o) (h : s ∈ cells o) :
    ∀ c ∈ s.toList, Csv.isSpecial c = false := by
  rcases mem_cells writable.number h with ⟨column, hc, rfl⟩ | number
  · exact writable.plain column hc
  · exact fun c hc => isSpecial_of_number (number c hc)

theorem bare_of_mem_cells (writable : Writable o) (h : s ∈ cells o) : Bare s := by
  rcases mem_cells writable.number h with ⟨column, hc, rfl⟩ | number
  · exact writable.bare column hc
  · exact bare_of_forall fun c hc => isBlank_of_number (number c hc)

/-- An empty cell is no number, and a written number is read back. -/
theorem value?_getD {value : Option Double} (number : ∀ x, value = some x → x.isNaN = false) :
    value? ((value.map Decimal.Style.plain.text).getD "") = value := by
  cases value with
  | none => decide +kernel
  | some x =>
      have finite := number x rfl
      rw [Option.map_some, Option.getD_some, value?, Decimal.parse?_text finite]
      simp [finite]

theorem integer?_getD {value : Option Int} (word : ∀ n, value = some n → -2 ^ 63 ≤ n ∧ n < 2 ^ 63) :
    integer? ((value.map Int.repr).getD "") = value := by
  cases value with
  | none => decide +kernel
  | some n =>
      rw [Option.map_some, Option.getD_some, integer?, int64?_repr (word n rfl).1 (word n rfl).2]
      rfl

theorem rowOf_cells (writable : Writable o) : rowOf knownColumns (cells o) = o := by
  have trimmed : (cells o).map trim = cells o := by
    conv_rhs => rw [← List.map_id (cells o)]
    exact List.map_congr_left fun s hs => (bare_of_mem_cells writable hs).trim_eq
  have word := writable.integers
  simp only [integerColumns, List.forall_mem_cons, List.not_mem_nil, false_implies, implies_true,
    and_true] at word
  obtain ⟨inputsize, invocation, iteration⟩ := word
  rw [rowOf, trimmed]
  show (⟨o.bench, o.exe, o.suite, o.criterion, o.unit, o.envid,
    value? ((o.value.map Decimal.Style.plain.text).getD ""),
    integer? ((o.inputsize.map Int.repr).getD ""), integer? ((o.invocation.map Int.repr).getD ""),
    integer? ((o.iteration.map Int.repr).getD "")⟩ : Observation) = o
  rw [value?_getD writable.number, integer?_getD inputsize, integer?_getD invocation,
    integer?_getD iteration]

end Cells

/-! ## Tables -/

section Tables

variable {rows : List Observation}

theorem line_eq_record {cells : List String}
    (plain : ∀ s ∈ cells, ∀ c ∈ s.toList, Csv.isSpecial c = false) :
    line cells = Csv.record cells := by
  have same : cells.map Csv.field = cells := by
    conv_rhs => rw [← List.map_id cells]
    refine List.map_congr_left fun s hs => if_neg ?_
    rw [List.any_eq_true]
    rintro ⟨c, hc, special⟩
    rw [plain s hs c hc] at special
    cases special
  rw [line, Csv.record, same]

theorem text_eq_join_record (writable : ∀ o ∈ rows, Writable o) :
    text rows = String.join ((knownColumns :: rows.map cells).map Csv.record) := by
  refine congrArg String.join (List.map_congr_left fun r hr => line_eq_record ?_)
  rcases List.mem_cons.mp hr with rfl | row
  · have columns : ∀ s ∈ knownColumns, s.toList.any Csv.isSpecial = false := by decide +kernel
    exact fun s hs => by simpa using columns s hs
  · obtain ⟨o, ho, rfl⟩ := List.mem_map.mp row
    exact fun s hs => plain_of_mem_cells (writable o ho) hs

theorem holds_encode_text (writable : ∀ o ∈ rows, Writable o) :
    Csv.Holds (Utf8.encode (text rows)) (knownColumns :: rows.map cells) := by
  rw [text_eq_join_record writable]
  apply Csv.holds_join_record
  · intro r hr
    rcases List.mem_cons.mp hr with rfl | row
    · exact ⟨by decide, by decide⟩
    · obtain ⟨o, _, rfl⟩ := List.mem_map.mp row
      constructor <;> simp [cells]
  · exact Csv.unmarked_join_record _ (by decide +kernel)

/-- A table is read back as the observations it was written for, and the log tells how many values
are missing. -/
theorem ofOctets_encode_text (writable : ∀ o ∈ rows, Writable o) :
    ofOctets (Utf8.encode (text rows)) = .ok rows ∧
      Warns (rows.countP (·.value.isNone)) (readLog rows) := by
  have columns : columnsOf (knownColumns :: rows.map cells) = knownColumns := by
    show knownColumns.map columnName = knownColumns
    decide +kernel
  refine ⟨(ofOctets_eq_ok_iff (holds_encode_text writable)).mpr ?_, warns_readLog rows⟩
  rw [columns, List.tail_cons]
  refine ⟨⟨fun c hc => List.mem_append_left _ hc, ?_, ?_⟩, ?_⟩
  · intro r hr
    obtain ⟨o, _, rfl⟩ := List.mem_map.mp hr
    rfl
  · intro _
    unfold Unrepeated
    decide
  · rw [List.map_map]
    conv_lhs => rw [← List.map_id rows]
    exact List.map_congr_left fun o ho => (rowOf_cells (writable o ho)).symm

/-- Empty texts beside a missing value, an infinity, a negative zero and the largest numbers of
64 bits. -/
theorem ofOctets_encode_extremes :
    let empty : Observation := ⟨"", "", "", "", "", "", none, none, none, none⟩
    let rows := [empty,
      { empty with value := some (Double.infinity true), inputsize := some (-2 ^ 63) },
      { empty with
        bench := "a b", value := some (Double.zero true), iteration := some (2 ^ 63 - 1) }]
    (∀ o ∈ rows, Writable o) ∧ ofOctets (Utf8.encode (text rows)) = .ok rows ∧
      Warns (rows.countP (·.value.isNone)) (readLog rows) := by
  intro empty rows
  have plain : ∀ o ∈ rows, ∀ column ∈ textColumns,
      (column.2 o).toList.any Csv.isSpecial = false := by decide +kernel
  have ends : ∀ o ∈ rows, ∀ column ∈ textColumns,
      (column.2 o).toList.head?.all (!isBlank ·) = true ∧
        (column.2 o).toList.getLast?.all (!isBlank ·) = true := by decide +kernel
  have number : ∀ o ∈ rows, ∀ x ∈ o.value, x.isNaN = false := by decide +kernel
  have integers : ∀ o ∈ rows, ∀ column ∈ integerColumns, ∀ n ∈ column.2 o,
      -2 ^ 63 ≤ n ∧ n < 2 ^ 63 := by decide +kernel
  have writable : ∀ o ∈ rows, Writable o := by
    intro o ho
    refine ⟨fun column hc => ?_, fun column hc => ⟨?_, ?_⟩, number o ho, integers o ho⟩
    · simpa using plain o ho column hc
    · simpa [Option.all_eq_true] using (ends o ho column hc).1
    · simpa [Option.all_eq_true] using (ends o ho column hc).2
  exact ⟨writable, ofOctets_encode_text writable⟩

end Tables

end Speedup.ObservationTable
