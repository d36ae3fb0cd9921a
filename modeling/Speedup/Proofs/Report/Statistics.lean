import Speedup.Proofs.Comparison.Observed
import Speedup.Proofs.Report.Documents

/-!
# One list of values behind all statistics

The values of an executable on a benchmark are collected in three ways: by groups of cells, by
groups of executables among the observations of the benchmark, and for box plots by looking through
these once for every executable. All three arrive at the same list, in the order of the
observations. So the table of all benchmarks, the table of a benchmark, its box plot, the means that
are compared and the pivot of medians show the statistics of one list, or none of them shows any
(`showsStatistics`). A box plot has a box for every executable with values, so nothing is left out
of it and nothing is drawn twice (`statistics_agree`).
-/

namespace Speedup

open Ordered Grouping

variable {rows : List Observation} {metric : Metric} {baseline bench exe : String}

/-! ## Values -/

theorem Chart.valuesOf_eq (rows : List Observation) (exe : String) :
    valuesOf rows exe = valuesAt (·.exe) rows exe := rfl

/-! ## Executables of a benchmark -/

namespace ExeSummary

/-- The gain of an executable is over the mean of the baseline. -/
def referenceOf (baseline : String) (rows : List Observation) : Option Double :=
  (Stats.ofValues (valuesAt (·.exe) rows baseline)).map (·.mean)

/-- The summary of an executable, if it has values. -/
def of? (baseline : String) (rows : List Observation) (exe : String) : Option ExeSummary :=
  (Stats.ofValues (valuesAt (·.exe) rows exe)).map fun s =>
    ⟨exe, s, gainOver (referenceOf baseline rows) s.mean⟩

theorem ofRows_perm (baseline : String) (rows : List Observation) : (ofRows baseline rows).Perm
    ((Grouping.stats (·.exe) rows).entries.map fun (exe, s) =>
      ⟨exe, s, gainOver (referenceOf baseline rows) s.mean⟩) := by
  unfold ofRows referenceOf
  rw [← get?_stats]
  exact List.mergeSort_perm _ _

/-- Every executable with values is summarised once. -/
theorem filter_ofRows (baseline : String) (rows : List Observation) (exe : String) :
    (ofRows baseline rows).filter (fun s => s.exe = exe) = (of? baseline rows exe).toList := by
  apply eq_toList_of_perm
  refine ((ofRows_perm baseline rows).filter _).trans (List.Perm.of_eq ?_)
  have entry := Table.filter_entries (Grouping.stats (·.exe) rows) exe
  rw [get?_stats] at entry
  rw [List.filter_map]
  show ((Grouping.stats (·.exe) rows).entries.filter fun e => e.1 = exe).map _ = _
  rw [entry, of?]
  cases Stats.ofValues (valuesAt (·.exe) rows exe) <;> rfl

theorem nodup_map_exe_ofRows (baseline : String) (rows : List Observation) :
    ((ofRows baseline rows).map (·.exe)).Nodup := by
  have names := (ofRows_perm baseline rows).map (·.exe)
  rw [List.map_map] at names
  exact names.nodup_iff.mpr (Grouping.stats (·.exe) rows).ascending.nodup

theorem mem_map_exe_ofRows_iff : exe ∈ (ofRows baseline rows).map (·.exe) ↔
    ∃ o ∈ rows, o.exe = exe ∧ o.value.isSome := by
  have names := (ofRows_perm baseline rows).map (·.exe)
  rw [List.map_map] at names
  rw [names.mem_iff, ← valuesAt_ne_nil_iff, ← Sample.isSome_ofValues_iff, ← get?_stats]
  exact Table.isSome_get?_iff.symm

end ExeSummary

/-! ## Box plots -/

namespace Chart

def boxes (c : Chart) : List (String × List Double) :=
  c.traces.filterMap fun
    | (_, .box exe values) => some (exe, values)
    | _ => none

def markers (c : Chart) : List (String × Double) :=
  c.traces.flatMap fun
    | (_, .means points) => points.map fun p => (p.exe, p.mean)
    | _ => []

theorem traces_of_box? {chart : Chart} (h : box? metric bench rows (some baseline) = some chart) :
    ∃ label, chart.traces =
      (boxTraces metric rows ((ExeSummary.ofRows baseline rows).map (·.exe)) label).map
        fun t => (0, t) := by
  unfold box? at h
  simp only [Option.bind_eq_bind, Option.bind_eq_some_iff] at h
  obtain ⟨best, _, range, _, whole⟩ := h
  cases whole
  exact ⟨_, rfl⟩

/-- The executables of a box plot from bottom to top. -/
def plotted (baseline : String) (rows : List Observation) : List String :=
  ((ExeSummary.ofRows baseline rows).map (·.exe)).reverse

theorem boxesOf_plotted_eq_nil (h : box? metric bench rows (some baseline) = none) :
    boxesOf rows (plotted baseline rows) = [] := by
  have no_values := mt isSome_box?_iff.mpr (Option.not_isSome_iff_eq_none.mpr h)
  have no_rows : ExeSummary.ofRows baseline rows = [] :=
    Classical.not_not.mp (mt ExeSummary.ofRows_ne_nil_iff.mp no_values)
  simp [plotted, no_rows, boxesOf]

theorem boxes_box? (metric : Metric) (bench baseline : String) (rows : List Observation) :
    (box? metric bench rows (some baseline)).toList.flatMap boxes =
      (boxesOf rows (plotted baseline rows)).map fun (exe, values, _) => (exe, values) := by
  cases drawn : box? metric bench rows (some baseline) with
  | none =>
      rw [boxesOf_plotted_eq_nil drawn]
      rfl
  | some chart =>
      obtain ⟨label, traces⟩ := traces_of_box? drawn
      simp only [Option.toList_some, List.flatMap_singleton, boxes, traces, boxTraces,
        List.map_append, List.filterMap_append, List.map_map, List.filterMap_map]
      simp [Function.comp_def, plotted]

theorem markers_box? (metric : Metric) (bench baseline : String) (rows : List Observation) :
    (box? metric bench rows (some baseline)).toList.flatMap markers =
      (boxesOf rows (plotted baseline rows)).map fun (exe, _, s) => (exe, s.mean) := by
  cases drawn : box? metric bench rows (some baseline) with
  | none =>
      rw [boxesOf_plotted_eq_nil drawn]
      rfl
  | some chart =>
      obtain ⟨label, traces⟩ := traces_of_box? drawn
      simp only [Option.toList_some, List.flatMap_singleton, markers, traces, boxTraces,
        List.map_append, List.flatMap_append, List.map_map, List.flatMap_map]
      simp [Function.comp_def, plotted]

/-- Among different executables every one with values has one box. -/
theorem filter_boxesOf {exes : List String} (distinct : exes.Nodup)
    (covered : valuesOf rows exe ≠ [] → exe ∈ exes) :
    (boxesOf rows exes).filter (fun b => b.1 = exe) =
      ((Stats.ofValues (valuesOf rows exe)).map fun s => (exe, valuesOf rows exe, s)).toList := by
  rw [boxesOf, List.filterMap_eq_flatMap_toList, List.filter_flatMap,
    flatMap_eq_of_only distinct fun x _ other => ?_]
  · split
    next there => cases Stats.ofValues (valuesOf rows exe) <;> simp
    next absent =>
      have nothing : valuesOf rows exe = [] := Classical.not_not.mp (mt covered absent)
      rw [nothing]
      rfl
  · cases Stats.ofValues (valuesOf rows x) <;> simp [other]

/-- The boxes of executables that cover all observations hold every value once. -/
theorem flatMap_boxesOf_perm {exes : List String} (distinct : exes.Nodup)
    (covered : ∀ o ∈ rows, o.value.isSome → o.exe ∈ exes) :
    ((boxesOf rows exes).flatMap fun b => b.2.1).Perm (rows.filterMap (·.value)) := by
  have all : (boxesOf rows exes).flatMap (fun b => b.2.1) =
      exes.flatMap (valuesAt (·.exe) rows) := by
    rw [boxesOf, List.filterMap_eq_flatMap_toList, List.flatMap_assoc]
    refine List.flatMap_congr fun x _ => ?_
    have values : ((Stats.ofValues (valuesOf rows x)).map fun s =>
        (x, valuesOf rows x, s)).toList.flatMap (fun b => b.2.1) =
        (someValues (valuesOf rows x)).toList.flatMap id := by
      rw [someValues_eq]
      cases Stats.ofValues (valuesOf rows x) <;> rfl
    rw [values, flatMap_someValues]
    rfl
  rw [all]
  exact flatMap_valuesAt_perm _ distinct covered

theorem nodup_boxesOf {exes : List String} (distinct : exes.Nodup) (rows : List Observation) :
    ((boxesOf rows exes).map (·.1)).Nodup := by
  rw [boxesOf, List.map_filterMap]
  refine distinct.filterMap ?_
  intro x y name hx hy
  simp only [Option.map_map, Option.mem_def, Option.map_eq_some_iff] at hx hy
  obtain ⟨_, _, rfl⟩ := hx
  obtain ⟨_, _, same⟩ := hy
  exact same.symm

theorem nodup_plotted (baseline : String) (rows : List Observation) :
    (plotted baseline rows).Nodup :=
  List.nodup_reverse.mpr (ExeSummary.nodup_map_exe_ofRows baseline rows)

theorem mem_plotted_iff :
    exe ∈ plotted baseline rows ↔ ∃ o ∈ rows, o.exe = exe ∧ o.value.isSome := by
  rw [plotted, List.mem_reverse, ExeSummary.mem_map_exe_ofRows_iff]

end Chart

/-! ## Tables -/

namespace Tables

def statCells (s : Stats) : List String :=
  [number s.mean, number s.median, defined s.std, number s.min, number s.max, Nat.repr s.n]

/-- The records of the table of all benchmarks. -/
def masterRecords (stats : Table (Pair String String) Stats) : List (List String) :=
  stats.entries.map fun (k, s) => masterRow k s

theorem master_eq (rows : List Observation) :
    master rows = Csv.table masterHeader (masterRecords (stats cell rows)) := rfl

/-- The records of the table of a benchmark. -/
def benchRecords (summaries : List ExeSummary) : List (List String) := summaries.map benchRow

theorem bench_eq (summaries : List ExeSummary) :
    Tables.bench summaries = Csv.table benchHeader (benchRecords summaries) := rfl

theorem filter_masterRecords (rows : List Observation) (bench exe : String) :
    (masterRecords (stats cell rows)).filter (fun r => r.take 2 = [bench, exe]) =
      ((Stats.ofValues (valuesAt cell rows ⟨bench, exe⟩)).map fun s =>
        bench :: exe :: statCells s).toList := by
  have entry := Table.filter_entries (stats cell rows) ⟨bench, exe⟩
  rw [get?_stats] at entry
  have own : (stats cell rows).entries.filter (fun e => (masterRow e.1 e.2).take 2 = [bench, exe]) =
      (stats cell rows).entries.filter fun e => e.1 = ⟨bench, exe⟩ := by
    refine List.filter_congr fun ⟨⟨b, x⟩, s⟩ _ => ?_
    simp [masterRow]
  rw [masterRecords, List.filter_map]
  show ((stats cell rows).entries.filter fun e =>
    (masterRow e.1 e.2).take 2 = [bench, exe]).map _ = _
  rw [own, entry]
  cases Stats.ofValues (valuesAt cell rows ⟨bench, exe⟩) <;> rfl

theorem filter_benchRecords (baseline exe : String) (rows : List Observation) :
    ((benchRecords (ExeSummary.ofRows baseline rows)).filter fun r => r.head? = some exe).map
      (·.take 7) =
      ((Stats.ofValues (valuesAt (·.exe) rows exe)).map fun s => exe :: statCells s).toList := by
  have own := ExeSummary.filter_ofRows baseline rows exe
  rw [benchRecords, List.filter_map, List.map_map]
  have heads : (ExeSummary.ofRows baseline rows).filter
      ((fun r => decide (r.head? = some exe)) ∘ benchRow) =
      (ExeSummary.ofRows baseline rows).filter fun s => s.exe = exe := by
    refine List.filter_congr fun s _ => ?_
    simp [benchRow]
  rw [heads, own, ExeSummary.of?]
  cases Stats.ofValues (valuesAt (·.exe) rows exe) <;> rfl

end Tables

/-! ## All outputs -/

theorem exists_mem_iff_isSome {β γ : Type} {xs : List β} {p : β → Prop} [DecidablePred p]
    {f : β → γ} {o : Option γ} (h : (xs.filter p).map f = o.toList) :
    (∃ x ∈ xs, p x) ↔ o.isSome := by
  have found : (∃ x ∈ xs, p x) ↔ xs.filter p ≠ [] := by simp [List.filter_eq_nil_iff]
  rw [found, ne_eq, ← List.map_eq_nil_iff, h]
  cases o <;> simp

/-- What the outputs of some observations show of an executable on a benchmark: the statistics of
the same values, or nothing if there are no values. -/
structure ShowsStatistics (rows : List Observation) (metric : Metric)
    (baseline bench exe : String) (shown : List Double) : Prop where
  by_cell : (values cell rows).get? ⟨bench, exe⟩ = someValues shown
  by_exe : (values (·.exe) (Observation.ofBench bench rows)).get? exe = someValues shown
  by_search : Chart.valuesOf (Observation.ofBench bench rows) exe = shown
  master : (Tables.masterRecords (stats cell rows)).filter (fun r => r.take 2 = [bench, exe]) =
    ((Stats.ofValues shown).map fun s => bench :: exe :: Tables.statCells s).toList
  table : ((Tables.benchRecords (ExeSummary.ofRows baseline
    (Observation.ofBench bench rows))).filter fun r => r.head? = some exe).map (·.take 7) =
    ((Stats.ofValues shown).map fun s => exe :: Tables.statCells s).toList
  box : ((Chart.box? metric bench (Observation.ofBench bench rows)
    (some baseline)).toList.flatMap Chart.boxes).filter (fun b => b.1 = exe) =
    (someValues shown).toList.map fun values => (exe, values)
  marker : ((Chart.box? metric bench (Observation.ofBench bench rows)
    (some baseline)).toList.flatMap Chart.markers).filter (fun m => m.1 = exe) =
    ((Stats.ofValues shown).map fun s => (exe, s.mean)).toList
  mean : (BenchMeans.ofRows rows).mean? bench exe = (Stats.ofValues shown).map (·.mean)
  median : (Pivot.ofRows rows).get? bench exe = (Stats.ofValues shown).map (·.median)

theorem showsStatistics (rows : List Observation) (metric : Metric) (baseline bench exe : String) :
    ShowsStatistics rows metric baseline bench exe (valuesAt cell rows ⟨bench, exe⟩) := by
  have same := valuesAt_ofBench bench exe rows
  have search : Chart.valuesOf (Observation.ofBench bench rows) exe =
      valuesAt cell rows ⟨bench, exe⟩ := (Chart.valuesOf_eq _ exe).trans same
  have once := Chart.nodup_plotted baseline (Observation.ofBench bench rows)
  have covered : Chart.valuesOf (Observation.ofBench bench rows) exe ≠ [] →
      exe ∈ Chart.plotted baseline (Observation.ofBench bench rows) := fun some_value =>
    Chart.mem_plotted_iff.mpr (valuesAt_ne_nil_iff.mp some_value)
  have own_box := Chart.filter_boxesOf once covered
  rw [search] at own_box
  refine ⟨get?_values cell rows _, ?_, search, Tables.filter_masterRecords rows bench exe, ?_, ?_,
    ?_, BenchMeans.mean?_ofRows rows bench exe, ?_⟩
  · rw [← same]
    exact get?_values _ _ exe
  · rw [← same]
    exact Tables.filter_benchRecords baseline exe _
  · rw [Chart.boxes_box?, List.filter_map]
    show (List.filter (fun b : String × List Double × Stats => b.1 = exe) _).map _ = _
    rw [own_box, someValues_eq]
    cases Stats.ofValues (valuesAt cell rows ⟨bench, exe⟩) <;> rfl
  · rw [Chart.markers_box?, List.filter_map]
    show (List.filter (fun b : String × List Double × Stats => b.1 = exe) _).map _ = _
    rw [own_box]
    cases Stats.ofValues (valuesAt cell rows ⟨bench, exe⟩) <;> rfl
  · show (Table.map _ _).get? _ = _
    rw [Table.get?_map, get?_stats]

/-- All outputs agree on the statistics of a benchmark: the two tables are made of records, and in
these, the means, the medians and the box plot there are the same numbers. The table of all
benchmarks has a record of an executable exactly if the table of the benchmark has one, and the box
plot of the benchmark has every value in one box. -/
theorem statistics_agree (rows : List Observation) (metric : Metric) (baseline bench : String) :
    Tables.master rows = Csv.table Tables.masterHeader (Tables.masterRecords (stats cell rows)) ∧
    (∀ summaries, Tables.bench summaries =
      Csv.table Tables.benchHeader (Tables.benchRecords summaries)) ∧
    (∀ exe, ShowsStatistics rows metric baseline bench exe
      (Chart.valuesOf (Observation.ofBench bench rows) exe)) ∧
    (∀ exe, (∃ r ∈ Tables.masterRecords (stats cell rows), r.take 2 = [bench, exe]) ↔
      ∃ r ∈ Tables.benchRecords (ExeSummary.ofRows baseline (Observation.ofBench bench rows)),
        r.head? = some exe) ∧
    let boxes := (Chart.box? metric bench (Observation.ofBench bench rows)
      (some baseline)).toList.flatMap Chart.boxes
    (boxes.map (·.1)).Nodup ∧
      (boxes.flatMap (·.2)).Perm ((Observation.ofBench bench rows).filterMap (·.value)) := by
  refine ⟨Tables.master_eq rows, Tables.bench_eq, fun exe => ?_, fun exe => ?_, ?_⟩
  · have all := showsStatistics rows metric baseline bench exe
    rw [all.by_search]
    exact all
  · have all := showsStatistics rows metric baseline bench exe
    refine (exists_mem_iff_isSome ((List.map_id _).trans all.master)).trans ?_
    rw [exists_mem_iff_isSome all.table, Option.isSome_map, Option.isSome_map]
  · intro boxes
    rw [show boxes = _ from Chart.boxes_box? metric bench baseline _]
    refine ⟨?_, ?_⟩
    · rw [List.map_map]
      exact Chart.nodup_boxesOf (Chart.nodup_plotted baseline _) _
    · rw [List.flatMap_map]
      exact Chart.flatMap_boxesOf_perm (Chart.nodup_plotted baseline _)
        fun o ho value => Chart.mem_plotted_iff.mpr ⟨o, ho, rfl, value⟩

end Speedup
