import Speedup.BenchSummary
import Speedup.Comparison.Basic
import Speedup.Pivot
import Speedup.Proofs.Collapsed

/-!
# The order of the observations

Results in terms of medians are the same for every order of the observations. A running mean
depends on the order of its values, so results in terms of means are the same only while the rows of
each benchmark and executable stay in their order (`SameCells`); how rows of different ones are
interleaved does not matter. Both follow from what the groups hold: permuted values in the one case,
the same ones in the other.
-/

namespace Speedup

open Ordered

variable {rows rows₁ rows₂ : List Observation}

/-! ## Any order -/

/-- The observations may come in another order if a table is of their collapsed medians. -/
theorem Collapsed.Collapses.of_perm {out : List Collapsed} (perm : rows₁.Perm rows₂)
    (h : Collapses rows₁ out) : Collapses rows₂ out where
  nodup := h.nodup
  mem_measured := by
    intro s
    rw [h.mem_measured]
    simp only [perm.mem_iff]
  median := by
    intro r hr
    obtain ⟨invocations, nodup, mem, medians, each, median⟩ := h.median r hr
    have values (i : Option Int) :
        (valuesIn rows₁ r.measured i).Perm (valuesIn rows₂ r.measured i) :=
      (perm.filter _).filterMap _
    refine ⟨invocations, nodup, ?_, medians, ?_, median⟩
    · intro i
      rw [mem, ← List.length_pos_iff, ← List.length_pos_iff, (values i).length_eq]
    · rw [each]
      exact List.map_congr_left fun i _ => Sample.median_perm (values i)
  ordered := h.ordered

theorem Collapsed.ofRows_perm (perm : rows₁.Perm rows₂) : ofRows rows₁ = ofRows rows₂ :=
  ((collapses_ofRows rows₁).of_perm perm).unique (collapses_ofRows rows₂)

/-- A cell of a pivot is the median of the values of a benchmark and an executable. -/
theorem Pivot.get?_cells_ofRows (rows : List Observation) (k : Pair String String) :
    (ofRows rows).cells.get? k = Sample.median (Grouping.valuesAt Grouping.cell rows k) := by
  rw [ofRows, Table.get?_map, Grouping.get?_stats]
  exact Sample.map_median_ofValues _

theorem Pivot.ofRows_perm (perm : rows₁.Perm rows₂) : ofRows rows₁ = ofRows rows₂ := by
  have cells : (ofRows rows₁).cells = (ofRows rows₂).cells := by
    apply Table.ext_get?
    intro k
    rw [get?_cells_ofRows, get?_cells_ofRows]
    exact Sample.median_perm (Grouping.valuesAt_perm perm k)
  exact congrArg Pivot.mk cells

/-! ## The order within a cell -/

/-- The same rows in the same order for every benchmark and executable. -/
def SameCells (rows₁ rows₂ : List Observation) : Prop :=
  ∀ bench exe, rows₁.filter (Grouping.cell · = ⟨bench, exe⟩) =
    rows₂.filter (Grouping.cell · = ⟨bench, exe⟩)

namespace SameCells

theorem swap {a b : Observation} (apart : Grouping.cell a ≠ Grouping.cell b) :
    SameCells (a :: b :: rows) (b :: a :: rows) := by
  intro bench exe
  by_cases ha : Grouping.cell a = ⟨bench, exe⟩
  · have hb : Grouping.cell b ≠ ⟨bench, exe⟩ := fun hb => apart (ha.trans hb.symm)
    simp [ha, hb]
  · simp [List.filter_cons, ha]

variable (same : SameCells rows₁ rows₂)

include same

/-- Rows in the same order cell by cell are a permutation of each other. -/
theorem perm : rows₁.Perm rows₂ := by
  rw [List.perm_iff_count]
  intro o
  have counted (rows : List Observation) : rows.count o =
      (rows.filter (Grouping.cell · = Grouping.cell o)).count o := by
    rw [List.count_filter (by simp)]
  rw [counted rows₁, counted rows₂]
  exact congrArg (List.count o) (same o.bench o.exe)

theorem values_cell : Grouping.values Grouping.cell rows₁ = Grouping.values Grouping.cell rows₂ :=
  Grouping.values_congr fun k => congrArg (List.filterMap _) (same k.first k.second)

theorem values_exe (bench : String) :
    Grouping.values (·.exe) (Observation.ofBench bench rows₁) =
      Grouping.values (·.exe) (Observation.ofBench bench rows₂) := by
  apply Grouping.values_congr
  intro exe
  rw [Grouping.valuesAt_ofBench, Grouping.valuesAt_ofBench]
  exact congrArg (List.filterMap _) (same bench exe)

theorem benchMeans : BenchMeans.ofRows rows₁ = BenchMeans.ofRows rows₂ := by
  unfold BenchMeans.ofRows Grouping.means Grouping.stats
  rw [same.values_cell]

theorem exeSummaries (baseline bench : String) :
    ExeSummary.ofRows baseline (Observation.ofBench bench rows₁) =
      ExeSummary.ofRows baseline (Observation.ofBench bench rows₂) := by
  unfold ExeSummary.ofRows Grouping.stats
  rw [same.values_exe]

theorem exesByMean (bench : String) :
    ExeSummary.exesByMean (Observation.ofBench bench rows₁) =
      ExeSummary.exesByMean (Observation.ofBench bench rows₂) := by
  unfold ExeSummary.exesByMean Grouping.means Grouping.stats
  rw [same.values_exe]

end SameCells

/-! ## Both -/

/-- In any order of the observations the collapsed medians and the pivot are the same, and in any
order that keeps the rows of every cell in theirs so are the means, the comparisons, and the
summaries of a benchmark. -/
theorem results_of_reordered (rows₁ rows₂ : List Observation) :
    (rows₁.Perm rows₂ →
      Collapsed.ofRows rows₁ = Collapsed.ofRows rows₂ ∧
        Pivot.ofRows rows₁ = Pivot.ofRows rows₂) ∧
    (SameCells rows₁ rows₂ →
      BenchMeans.ofRows rows₁ = BenchMeans.ofRows rows₂ ∧
      (BenchMeans.ofRows rows₁).overall = (BenchMeans.ofRows rows₂).overall ∧
      (∀ baseline, Comparison.ofRows rows₁ baseline = Comparison.ofRows rows₂ baseline) ∧
      ∀ bench,
        (∀ baseline, ExeSummary.ofRows baseline (Observation.ofBench bench rows₁) =
          ExeSummary.ofRows baseline (Observation.ofBench bench rows₂)) ∧
        ExeSummary.exesByMean (Observation.ofBench bench rows₁) =
          ExeSummary.exesByMean (Observation.ofBench bench rows₂)) := by
  constructor
  · intro perm
    exact ⟨Collapsed.ofRows_perm perm, Pivot.ofRows_perm perm⟩
  · intro same
    have means := same.benchMeans
    refine ⟨means, by rw [means], ?_, ?_⟩
    · intro baseline
      unfold Comparison.ofRows
      rw [means]
    · intro bench
      exact ⟨fun baseline => same.exeSummaries baseline bench, same.exesByMean bench⟩

/-- Two samples of `X` and one of `Y`: turned around they have the same medians, and where `Y` comes
in between does not matter for the comparison. -/
theorem results_of_reordered_three :
    let x₁ : Observation := ⟨"A", "X", "s", "total", "ms", "1", some 2, some 1, some 1, some 1⟩
    let x₂ : Observation := ⟨"A", "X", "s", "total", "ms", "2", some 4, some 1, none, some 1⟩
    let y : Observation := ⟨"A", "Y", "t", "total", "ms", "1", some 3, none, some 1, none⟩
    ([x₁, y, x₂].Perm [x₂, y, x₁] ∧
      Collapsed.ofRows [x₁, y, x₂] = Collapsed.ofRows [x₂, y, x₁]) ∧
    SameCells [x₁, y, x₂] [y, x₁, x₂] ∧
      Comparison.ofRows [x₁, y, x₂] "Y" = Comparison.ofRows [y, x₁, x₂] "Y" := by
  intro x₁ x₂ y
  have perm : [x₁, y, x₂].Perm [x₂, y, x₁] := (List.reverse_perm _).symm
  have same : SameCells [x₁, y, x₂] [y, x₁, x₂] := SameCells.swap (by decide)
  exact ⟨⟨perm, ((results_of_reordered _ _).1 perm).1⟩, same,
    ((results_of_reordered _ _).2 same).2.2.1 "Y"⟩

end Speedup
