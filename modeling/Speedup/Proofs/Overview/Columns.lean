import Speedup.Proofs.Pivot
import Speedup.Proofs.Text.Digits

/-!
# Columns of the tables on the console

The collapsed medians and the pivots of a metric are tables whose rows all have as many cells as
their header, so every column ends at one place in all lines and the cells can be read back from
there (`tables_aligned`). Only names and the unit can bring an end of a line into a cell: numbers
and quantities have none (`oneLine_humanize`).
-/

namespace Speedup

/-! ## Texts of quantities -/

namespace Text

theorem oneLine_zeroPadded {width : Nat} {cs : List Char} (h : '\n' ∉ cs) :
    OneLine (String.ofList (zeroPadded width cs)) := by
  rw [OneLine, String.toList_ofList, zeroPadded, List.mem_append, not_or]
  refine ⟨fun newline => ?_, h⟩
  exact absurd (List.eq_of_mem_replicate newline) (by decide)

theorem oneLine_int_repr (i : Int) : OneLine (Int.repr i) := by
  cases i with
  | ofNat n => exact oneLine_repr n
  | negSucc n =>
      show OneLine ("-" ++ Nat.repr (n + 1))
      rw [oneLine_append_iff]
      exact ⟨by decide, oneLine_repr _⟩

end Text

namespace Quantity

theorem oneLine_shortFixed (places : Nat) (x : Double) : Text.OneLine (shortFixed places x) := by
  unfold shortFixed
  split
  · exact Decimal.oneLine_fixed _ _
  · split <;> exact Decimal.oneLine_fixed _ _

theorem oneLine_fit {scales : List Scale} (names : ∀ s ∈ scales, Text.OneLine s.name) {x : Double}
    {text : String} (h : fit x scales = .inr text) : Text.OneLine text := by
  induction scales generalizing x with
  | nil => cases h
  | cons s rest ih =>
      obtain ⟨first, later⟩ := List.forall_mem_cons.mp names
      unfold fit at h
      dsimp only at h
      split at h
      · cases h
        exact Text.oneLine_append_iff.mpr ⟨oneLine_shortFixed _ _, first⟩
      · exact ih later h

theorem oneLine_twoDigits (n : Nat) : Text.OneLine (twoDigits n) := by
  refine Text.oneLine_zeroPadded fun newline => ?_
  exact absurd (Text.isDigit_of_mem_digits newline) (by decide)

theorem oneLine_clock (x : Double) : Text.OneLine (clock x) := by
  have tenths (y : Double) :
      Text.OneLine (String.ofList (Text.zeroPadded 4 (Decimal.fixed 1 y).toList)) :=
    Text.oneLine_zeroPadded (Decimal.oneLine_fixed 1 y)
  have colon : Text.OneLine ":" := by decide
  unfold clock
  dsimp only
  split
  · split <;> simp only [Text.oneLine_append_iff, Decimal.oneLine_fixed, oneLine_twoDigits, tenths,
      colon, and_true]
  · simp only [Text.oneLine_append_iff, Decimal.oneLine_fixed, oneLine_twoDigits, colon, and_true]

theorem oneLine_showDuration (seconds nanoseconds : Nat) :
    Text.OneLine (showDuration seconds nanoseconds) := by
  unfold showDuration
  dsimp only
  split
  next text fitting => exact oneLine_fit (by decide) fitting
  next =>
    split
    · exact Text.oneLine_append_iff.mpr ⟨oneLine_shortFixed _ _, by decide⟩
    · exact oneLine_clock _

theorem oneLine_showSize (bytes : Nat) : Text.OneLine (showSize bytes) := by
  unfold showSize
  split
  next text fitting => exact oneLine_fit (by decide) fitting
  next => exact Text.oneLine_append_iff.mpr ⟨oneLine_shortFixed _ _, by decide⟩

theorem oneLine_humanize (q : Quantity) : Text.OneLine q.humanize := by
  cases q with
  | duration seconds nanoseconds => exact oneLine_showDuration seconds nanoseconds
  | size bytes => exact oneLine_showSize bytes
  | count x =>
      unfold humanize
      dsimp only
      split <;> exact Decimal.oneLine_fixed _ _

end Quantity

/-! ## Tables -/

namespace Overview

/-- What it means that a text is a title and a table in aligned columns, a line for the header and
one for each row. -/
def ShowsAligned (text title : String) (header : List String) (rows : List (List String)) : Prop :=
  ∃ ends lines, Text.lines text = Text.lines title ++ lines ++ [""] ∧
    lines.length = rows.length + 1 ∧ Text.Aligned ends (header :: rows) lines

theorem showsAligned_table {title : String} {header : List String} {rows : List (List String)}
    (some_column : header ≠ []) (lengths : ∀ row ∈ rows, row.length = header.length)
    (single : ∀ row ∈ header :: rows, ∀ cell ∈ row, Text.OneLine cell) :
    ShowsAligned (title ++ "\n" ++ Text.table header rows ++ "\n") title header rows :=
  ⟨_, _, Text.lines_table single, by rw [List.length_map, List.length_cons],
    Text.aligned_table some_column lengths⟩

def collapsedTitle (metric : Metric) : String :=
  "***** Collapsed " ++ metric.key ++ " summary (per bench/exe/suite/inputsize) *****"

variable {metric : Metric}

theorem oneLine_of_mem_collapsedHeader (unit : Text.OneLine metric.unit) :
    ∀ cell ∈ collapsedHeader metric, Text.OneLine cell := by
  have median : Text.OneLine ("median_" ++ metric.unit) :=
    Text.oneLine_append_iff.mpr ⟨by decide, unit⟩
  simp only [collapsedHeader, List.forall_mem_cons, median]
  decide

theorem oneLine_of_mem_collapsedRow {r : Collapsed} (suite : Text.OneLine r.suite)
    (bench : Text.OneLine r.bench) (exe : Text.OneLine r.exe) :
    ∀ cell ∈ collapsedRow metric r, Text.OneLine cell := by
  have inputsize : Text.OneLine ((r.inputsize.map Int.repr).getD "-") := by
    cases r.inputsize with
    | none => decide
    | some size => exact Text.oneLine_int_repr size
  simp only [collapsedRow, List.forall_mem_cons, suite, bench, inputsize, exe,
    Decimal.oneLine_fixed, Quantity.oneLine_humanize, true_and]
  decide

theorem showsAligned_collapsed {rows : List Collapsed} (some_row : rows ≠ [])
    (unit : Text.OneLine metric.unit)
    (names : ∀ r ∈ rows, Text.OneLine r.suite ∧ Text.OneLine r.bench ∧ Text.OneLine r.exe) :
    ShowsAligned (collapsed metric rows) (collapsedTitle metric) (collapsedHeader metric)
      (rows.map (collapsedRow metric)) := by
  have full : ¬ rows.isEmpty = true := by rwa [List.isEmpty_iff]
  rw [collapsed, if_neg full]
  refine showsAligned_table (List.cons_ne_nil _ _) (List.forall_mem_map.mpr fun _ _ => rfl) ?_
  refine List.forall_mem_cons.mpr ⟨oneLine_of_mem_collapsedHeader unit, ?_⟩
  refine List.forall_mem_map.mpr fun r hr => ?_
  obtain ⟨suite, bench, exe⟩ := names r hr
  exact oneLine_of_mem_collapsedRow suite bench exe

theorem showsAligned_pivot {p : Pivot} (full : p.isEmpty = false)
    (benches : ∀ bench ∈ p.benches, Text.OneLine bench)
    (exes : ∀ exe ∈ p.exes, Text.OneLine exe) :
    ShowsAligned (pivot metric p) (pivotTitle metric) ("bench" :: p.exes)
      (p.benches.map (pivotRow metric p)) := by
  rw [pivot_eq_table full]
  refine showsAligned_table (List.cons_ne_nil _ _)
    (List.forall_mem_map.mpr fun bench _ => by simp [pivotRow]) ?_
  refine List.forall_mem_cons.mpr ⟨List.forall_mem_cons.mpr ⟨by decide, exes⟩, ?_⟩
  exact List.forall_mem_map.mpr fun bench hb => oneLine_of_mem_pivotRow (benches bench hb)

/-- The tables of collapsed medians and of pivots are aligned if no name and no unit has an end of
a line. -/
theorem tables_aligned (metric : Metric) :
    (∀ rows : List Collapsed, rows ≠ [] → Text.OneLine metric.unit →
      (∀ r ∈ rows, Text.OneLine r.suite ∧ Text.OneLine r.bench ∧ Text.OneLine r.exe) →
      ShowsAligned (collapsed metric rows) (collapsedTitle metric) (collapsedHeader metric)
        (rows.map (collapsedRow metric))) ∧
    ∀ p : Pivot, p.isEmpty = false → (∀ bench ∈ p.benches, Text.OneLine bench) →
      (∀ exe ∈ p.exes, Text.OneLine exe) →
      ShowsAligned (pivot metric p) (pivotTitle metric) ("bench" :: p.exes)
        (p.benches.map (pivotRow metric p)) :=
  ⟨fun _ => showsAligned_collapsed, fun _ => showsAligned_pivot⟩

/-- Names of several alphabets and missing cells. -/
theorem tables_aligned_two :
    let rows : List Collapsed :=
      [⟨"s", "Größe", some (-10), "X", 1⟩, ⟨"s", "A", none, "два слова", 9000⟩]
    let p : Pivot := ⟨⟨[(⟨"A", "два слова"⟩, 9000), (⟨"Größe", "X"⟩, 1)], by decide⟩⟩
    ShowsAligned (collapsed Metric.time rows) (collapsedTitle Metric.time)
      ["suite", "bench", "inputsize", "exe", "median_ms", "human"]
      (rows.map (collapsedRow Metric.time)) ∧
    ShowsAligned (pivot Metric.time p) (pivotTitle Metric.time) ("bench" :: p.exes)
      (["A", "Größe"].map (pivotRow Metric.time p)) := by
  intro rows p
  obtain ⟨collapsed, pivots⟩ := tables_aligned Metric.time
  have exes : ∀ exe ∈ p.exes, Text.OneLine exe := by
    simp only [Pivot.exes, Ordered.mem_distinct]
    decide
  exact ⟨collapsed rows (List.cons_ne_nil _ _) (by decide) (by decide),
    pivots p (by decide) (by decide) exes⟩

end Overview

end Speedup
