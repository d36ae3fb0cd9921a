import Speedup.Proofs.Overview
import Speedup.Proofs.RowOrder
import Speedup.Proofs.Text.Align

/-!
# Rows, columns and cells of a pivot

The rows and the columns of a pivot are read off the keys of its cells. The keys are in order by
benchmark first, so equal benchmarks are next to each other, and it is enough to leave out repeats
(`ascending_benches`); the executables are sorted for themselves. So a benchmark or an executable is
listed exactly if it has a cell, and there are no cells anywhere else (`tabulates_ofRows`). As text,
a pivot is a row of cells for every benchmark, in which a dash stands for a cell that is missing;
no median is written as a dash.
-/

namespace Speedup

open Ordered

/-! ## Keys in two parts -/

/-- Keys in two parts ascend by their first parts, which may stay the same. -/
theorem Ordered.Pair.atMost_first {p q : Pair String String} (h : compare p q = .lt) :
    atMost p.first q.first = true := by
  rw [compare_def] at h
  cases first : compare p.first q.first with
  | lt => simp [atMost, first]
  | eq => simp [atMost, first]
  | gt =>
      rw [first] at h
      cases h

namespace Pivot

variable {p : Pivot} {rows : List Observation} {bench exe : String}

theorem ascending_benches (p : Pivot) : Ascending p.benches := by
  refine ascending_dropRepeats (List.pairwise_map.mpr ?_)
  exact p.cells.ascending.imp Pair.atMost_first

theorem ascending_exes (p : Pivot) : Ascending p.exes := ascending_distinct _

theorem mem_benches_iff : bench ∈ p.benches ↔ ∃ exe, (p.get? bench exe).isSome := by
  simp only [benches, mem_dropRepeats, List.mem_map, get?, Table.isSome_get?_iff]
  constructor
  · rintro ⟨k, hk, rfl⟩
    exact ⟨k.second, hk⟩
  · rintro ⟨exe, hk⟩
    exact ⟨_, hk, rfl⟩

theorem mem_exes_iff : exe ∈ p.exes ↔ ∃ bench, (p.get? bench exe).isSome := by
  simp only [exes, mem_distinct, List.mem_map, get?, Table.isSome_get?_iff]
  constructor
  · rintro ⟨k, hk, rfl⟩
    exact ⟨k.first, hk⟩
  · rintro ⟨bench, hk⟩
    exact ⟨_, hk, rfl⟩

theorem isEmpty_iff : p.isEmpty = true ↔ ∀ bench exe, p.get? bench exe = none := by
  rw [isEmpty, Table.isEmpty_eq_true_iff]
  exact ⟨fun h bench exe => h ⟨bench, exe⟩, fun h k => h k.first k.second⟩

theorem isEmpty_iff_benches : p.isEmpty = true ↔ p.benches = [] := by
  simp only [isEmpty_iff, List.eq_nil_iff_forall_not_mem, mem_benches_iff, not_exists,
    Option.not_isSome_iff_eq_none]

theorem isEmpty_iff_exes : p.isEmpty = true ↔ p.exes = [] := by
  simp only [isEmpty_iff, List.eq_nil_iff_forall_not_mem, mem_exes_iff, not_exists,
    Option.not_isSome_iff_eq_none]
  exact forall_comm

theorem get?_ofRows (rows : List Observation) (bench exe : String) :
    (ofRows rows).get? bench exe =
      Sample.median (Grouping.valuesAt Grouping.cell rows ⟨bench, exe⟩) :=
  get?_cells_ofRows rows ⟨bench, exe⟩

theorem isSome_get?_ofRows_iff : ((ofRows rows).get? bench exe).isSome ↔
    ∃ o ∈ rows, o.bench = bench ∧ o.exe = exe ∧ o.value.isSome := by
  rw [get?_ofRows, Option.isSome_iff_ne_none, ne_eq, Sample.median_eq_none_iff, ← ne_eq,
    Grouping.valuesAt_ne_nil_iff]
  simp only [Grouping.cell, Pair.mk.injEq, and_assoc]

/-- What it means that a pivot tabulates observations: a cell for every benchmark and executable
with a value, and a row and a column for every cell. -/
structure Tabulates (rows : List Observation) (p : Pivot) : Prop where
  ascending_benches : Ascending p.benches
  ascending_exes : Ascending p.exes
  get?_eq : ∀ bench exe, p.get? bench exe = Sample.median
    ((rows.filter fun o => o.bench = bench ∧ o.exe = exe).filterMap (·.value))
  isSome_get?_iff : ∀ bench exe, (p.get? bench exe).isSome ↔
    ∃ o ∈ rows, o.bench = bench ∧ o.exe = exe ∧ o.value.isSome
  row_has_cell : ∀ bench ∈ p.benches, ∃ exe ∈ p.exes, (p.get? bench exe).isSome
  column_has_cell : ∀ exe ∈ p.exes, ∃ bench ∈ p.benches, (p.get? bench exe).isSome
  listed : ∀ bench exe, (p.get? bench exe).isSome → bench ∈ p.benches ∧ exe ∈ p.exes
  isEmpty_iff_benches : p.isEmpty = true ↔ p.benches = []
  isEmpty_iff_exes : p.isEmpty = true ↔ p.exes = []
  isEmpty_iff : p.isEmpty = true ↔ ∀ o ∈ rows, o.value = none

theorem isEmpty_ofRows_iff : (ofRows rows).isEmpty = true ↔ ∀ o ∈ rows, o.value = none := by
  simp only [isEmpty_iff, ← Option.not_isSome_iff_eq_none, isSome_get?_ofRows_iff, not_exists,
    not_and]
  constructor
  · intro h o ho
    exact h o.bench o.exe o ho rfl rfl
  · intro h bench exe o ho _ _
    exact h o ho

theorem tabulates_ofRows (rows : List Observation) : Tabulates rows (ofRows rows) where
  ascending_benches := ascending_benches _
  ascending_exes := ascending_exes _
  get?_eq bench exe := by
    rw [get?_ofRows, Grouping.valuesAt]
    refine congrArg (fun os => Sample.median (List.filterMap _ os)) ?_
    refine List.filter_congr fun o _ => ?_
    simp [Grouping.cell]
  isSome_get?_iff _ _ := isSome_get?_ofRows_iff
  row_has_cell _ h := by
    obtain ⟨exe, there⟩ := mem_benches_iff.mp h
    exact ⟨exe, mem_exes_iff.mpr ⟨_, there⟩, there⟩
  column_has_cell _ h := by
    obtain ⟨bench, there⟩ := mem_exes_iff.mp h
    exact ⟨bench, mem_benches_iff.mpr ⟨_, there⟩, there⟩
  listed _ _ there := ⟨mem_benches_iff.mpr ⟨_, there⟩, mem_exes_iff.mpr ⟨_, there⟩⟩
  isEmpty_iff_benches := isEmpty_iff_benches
  isEmpty_iff_exes := isEmpty_iff_exes
  isEmpty_iff := isEmpty_ofRows_iff

end Pivot

/-! ## Text -/

namespace Decimal

theorem fixedMagnitude_ne_nil (places : Nat) (x : Double) : fixedMagnitude places x ≠ [] := by
  intro nothing
  have padded := List.append_eq_nil_iff.mp nothing |>.1
  unfold pointed at padded
  split at padded
  · have long := congrArg List.length padded
    simp only [Text.zeroPadded, List.length_append, List.length_replicate, List.length_nil] at long
    omega
  · simp at padded

/-- No number is written as a dash alone. -/
theorem fixed_ne_dash (places : Nat) (x : Double) : fixed places x ≠ "-" := by
  intro dash
  have no_sign : '-' ∉ fixedMagnitude places x := by
    intro sign
    rcases mem_fixedMagnitude sign with digit | point
    · exact absurd digit (by decide)
    · exact absurd point (by decide)
  unfold fixed at dash
  split at dash
  · exact absurd dash (by decide)
  · have chars := congrArg String.toList dash
    rw [String.toList_ofList] at chars
    revert chars
    cases x.isInfinite <;> cases x.negative <;> simp [fixedMagnitude_ne_nil]
    rintro same
    rw [same] at no_sign
    exact no_sign (by simp)

end Decimal

theorem Text.oneLine_intercalate {separator : String} {xs : List String}
    (h : ∀ s ∈ xs, OneLine s) (between : OneLine separator) :
    OneLine (String.intercalate separator xs) := by
  induction xs with
  | nil => simp [OneLine]
  | cons s rest ih =>
      obtain ⟨first, later⟩ := List.forall_mem_cons.mp h
      cases rest with
      | nil => simpa using first
      | cons s' more =>
          rw [String.intercalate_cons_cons, oneLine_append_iff, oneLine_append_iff]
          exact ⟨⟨first, between⟩, ih later⟩

theorem Text.oneLine_tableLine {widths : List Nat} {row : List String}
    (h : ∀ s ∈ row, OneLine s) : OneLine (tableLine widths row) := by
  refine oneLine_intercalate ?_ (by decide)
  induction row generalizing widths with
  | nil => simp
  | cons s rest ih =>
      obtain ⟨first, later⟩ := List.forall_mem_cons.mp h
      cases widths with
      | nil => simp
      | cons w more =>
          exact List.forall_mem_cons.mpr ⟨oneLine_alignRight_iff.mpr first, ih later⟩

theorem Text.lines_table {title : String} {header : List String} {rows : List (List String)}
    (h : ∀ row ∈ header :: rows, ∀ cell ∈ row, OneLine cell) :
    lines (title ++ "\n" ++ table header rows ++ "\n") = lines title ++
      (header :: rows).map (tableLine (columnWidths (header :: rows))) ++ [""] := by
  obtain ⟨first, later⟩ := List.forall_mem_cons.mp h
  have last := lines_append_line (title ++ "\n" ++ table header rows) ""
  rw [String.append_empty] at last
  rw [last, lines_append_line, table]
  simp only [List.map_cons]
  rw [lines_intercalate, (oneLine_tableLine first).lines_eq]
  · rfl
  · exact List.forall_mem_map.mpr fun row hr => oneLine_tableLine (later row hr)

namespace Overview

variable {metric : Metric} {p : Pivot} {cell : Option Double} {shown bench : String}

def pivotTitle (metric : Metric) : String :=
  "***** " ++ metric.label ++ " median per bench and exe *****"

/-- How a cell is shown: a dash stands for one that is missing, and for nothing else. -/
structure ShowsCell (metric : Metric) (cell : Option Double) (shown : String) : Prop where
  eq_dash_iff : shown = "-" ↔ cell = none
  eq_fixed : ∀ v, cell = some v → shown = Decimal.fixed metric.precision v

theorem showsCell (metric : Metric) (cell : Option Double) :
    ShowsCell metric cell ((cell.map (Decimal.fixed metric.precision)).getD "-") := by
  cases cell with
  | none => exact ⟨iff_of_true rfl rfl, fun _ h => nomatch h⟩
  | some v =>
      refine ⟨iff_of_false (Decimal.fixed_ne_dash _ v) (Option.some_ne_none v), ?_⟩
      rintro _ ⟨⟩
      rfl

theorem ShowsCell.oneLine (h : ShowsCell metric cell shown) : Text.OneLine shown := by
  cases cell with
  | none =>
      rw [h.eq_dash_iff.mpr rfl]
      decide
  | some v =>
      rw [h.eq_fixed v rfl]
      exact Decimal.oneLine_fixed _ v

/-- How a row is shown: the benchmark, and a cell for every executable. -/
def ShowsRow (metric : Metric) (p : Pivot) (bench : String) (row : List String) : Prop :=
  ∃ cells, row = bench :: cells ∧
    List.Forall₂ (fun exe shown => ShowsCell metric (p.get? bench exe) shown) p.exes cells

theorem showsRow (metric : Metric) (p : Pivot) (bench : String) :
    ShowsRow metric p bench (pivotRow metric p bench) :=
  ⟨_, rfl, List.forall₂_map_right_iff.mpr (List.forall₂_same.mpr fun _ _ => showsCell metric _)⟩

theorem oneLine_of_mem_pivotRow (named : Text.OneLine bench) :
    ∀ s ∈ pivotRow metric p bench, Text.OneLine s :=
  List.forall_mem_cons.mpr
    ⟨named, List.forall_mem_map.mpr fun _ _ => (showsCell metric _).oneLine⟩

/-- How a pivot is shown: a title, a header with every executable, and a row for every benchmark,
all in columns wide enough for each of their cells. Names without an end of a line leave every row
on one line. -/
structure ShowsPivot (metric : Metric) (p : Pivot) (widths : List Nat)
    (body : List (List String)) : Prop where
  columns : widths.length = p.exes.length + 1
  rows : List.Forall₂ (ShowsRow metric p) p.benches body
  text : pivot metric p = pivotTitle metric ++ "\n" ++
    String.intercalate "\n" ((("bench" :: p.exes) :: body).map (Text.tableLine widths)) ++ "\n"
  lines : (∀ bench ∈ p.benches, Text.OneLine bench) → (∀ exe ∈ p.exes, Text.OneLine exe) →
    Text.lines (pivot metric p) = Text.lines (pivotTitle metric) ++
      (("bench" :: p.exes) :: body).map (Text.tableLine widths) ++ [""]

theorem pivot_eq_table (full : p.isEmpty = false) : pivot metric p = pivotTitle metric ++ "\n" ++
    Text.table ("bench" :: p.exes) (p.benches.map (pivotRow metric p)) ++ "\n" := by
  rw [pivot, full]
  rfl

theorem exists_showsPivot (metric : Metric) (full : p.isEmpty = false) :
    ∃ widths body, ShowsPivot metric p widths body := by
  let header := "bench" :: p.exes
  let body := p.benches.map (pivotRow metric p)
  let widths := Text.columnWidths (header :: body)
  refine ⟨widths, body, ?columns, ?rows, pivot_eq_table full, fun benches exes => ?lines⟩
  case columns =>
    refine Text.length_columnWidths (List.forall_mem_cons.mpr ⟨rfl, ?_⟩)
    exact List.forall_mem_map.mpr fun bench _ => by simp [pivotRow]
  case rows =>
    exact List.forall₂_map_right_iff.mpr (List.forall₂_same.mpr fun b _ => showsRow metric p b)
  case lines =>
    rw [pivot_eq_table full]
    refine Text.lines_table (List.forall_mem_cons.mpr ⟨?_, ?_⟩)
    · exact List.forall_mem_cons.mpr ⟨by decide, exes⟩
    · exact List.forall_mem_map.mpr fun bench hb => oneLine_of_mem_pivotRow (benches bench hb)

/-- Every pivot that is not empty is shown cell by cell. -/
def PivotShown (metric : Metric) (p : Pivot) : Prop :=
  p.isEmpty = false → ∃ widths body, ShowsPivot metric p widths body

/-- A pivot tabulates the observations it is made of, and its text shows a row for every benchmark
and a cell for every executable, with dashes for the missing cells alone. -/
theorem pivot_consistent (metric : Metric) (rows : List Observation) :
    (Pivot.ofRows rows).Tabulates rows ∧ ∀ p, PivotShown metric p :=
  ⟨Pivot.tabulates_ofRows rows, fun _ => exists_showsPivot metric⟩

end Overview

end Speedup
