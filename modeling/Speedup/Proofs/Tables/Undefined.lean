import Speedup.Proofs.Comparison.Observed
import Speedup.Proofs.Comparison.Wins
import Speedup.Proofs.Report.Skipped
import Speedup.Proofs.Report.Statistics
import Speedup.Proofs.Sample.Extremes
import Speedup.Proofs.Sample.Mean
import Speedup.Proofs.Tables.Cells

/-!
# Undefined statistics in tables

Values that are loaded are numbers, but they may be infinite, and then a statistic of them may be
undefined. Deviations, gains, coefficients of variation and speedups that are undefined have empty
cells, and extremes and win rates are always defined. Means and medians are written as they are, so
an undefined one stands in its cell as a NaN; they are defined wherever the values of a group have
finite distances (`TablesShow`).
-/

namespace Speedup

open Ordered

/-! ## Statistics -/

namespace Stats

variable {xs : List Double} {s : Stats}

theorem isNaN_mean (h : ofValues xs = some s) (close : Sample.Close xs) :
    s.mean.isNaN = false :=
  Double.isNaN_of_isFinite (Sample.isFinite_mean close (eq_of_ofValues h).1)

theorem isNaN_median (h : ofValues xs = some s) (close : Sample.Close xs) :
    s.median.isNaN = false :=
  Sample.isNaN_median (fun _ hx => close.isFinite hx) (eq_of_ofValues h).2.1

end Stats

/-! ## Rows -/

namespace Tables

/-- What a record shows of the statistics of some values. -/
structure ShowsStats (header : List String) (values : List Double) (s : Stats)
    (record : List String) : Prop where
  std : Shows (under header record "std") s.std
  min : Shows (under header record "min") s.min
  max : Shows (under header record "max") s.max
  /-- Means and medians are written even where they are undefined. -/
  mean : under header record "mean" = some (number s.mean)
  median : under header record "median" = some (number s.median)
  /-- They are defined for values that are close to one another. -/
  close : Sample.Close values →
    Shows (under header record "mean") s.mean ∧ Shows (under header record "median") s.median

/-- What a record shows of an executable in a ranking. -/
structure ShowsRanked (header : List String) (r : Ranked) (record : List String) : Prop where
  geoMean : Shows (under header record "geo_mean_speedup_vs_baseline") r.geoMean
  median : Shows (under header record "median_speedup_vs_baseline") r.median
  winRate : Shows (under header record "win_rate") r.winRate

variable {values : List Double} {s : Stats}

/-- Records that have the cells of statistics under their headings. -/
theorem showsStats_of_cells {header record : List String} (h : Stats.ofValues values = some s)
    (mean : under header record "mean" = some (number s.mean))
    (median : under header record "median" = some (number s.median))
    (std : under header record "std" = some (defined s.std))
    (min : under header record "min" = some (number s.min))
    (max : under header record "max" = some (number s.max)) :
    ShowsStats header values s record where
  std := std ▸ shows_defined _
  min := min ▸ shows_number (Stats.isNaN_min h)
  max := max ▸ shows_number (Stats.isNaN_max h)
  mean := mean
  median := median
  close close := ⟨mean ▸ shows_number (Stats.isNaN_mean h close),
    median ▸ shows_number (Stats.isNaN_median h close)⟩

theorem showsStats_masterRow (h : Stats.ofValues values = some s) (k : Pair String String) :
    ShowsStats masterHeader values s (masterRow k s) :=
  showsStats_of_cells h rfl rfl rfl rfl rfl

theorem showsStats_benchRow {s : ExeSummary} (h : Stats.ofValues values = some s.stats) :
    ShowsStats benchHeader values s.stats (benchRow s) :=
  showsStats_of_cells h rfl rfl rfl rfl rfl

theorem showsRanked_overallRow {r : Ranked} (h : r.winRate.isNaN = false) :
    ShowsRanked overallHeader r (overallRow r) :=
  ⟨shows_defined _, shows_defined _, shows_number h⟩

theorem showsRanked_keyed {r : Ranked} (h : r.winRate.isNaN = false) (key : String) :
    ShowsRanked ("metric" :: overallHeader) r (key :: overallRow r) :=
  ⟨shows_defined _, shows_defined _, shows_number h⟩

/-! ## Tables -/

/-- What the tables show of observations, record by record: the table of a benchmark, that of all
benchmarks and the ranking of every metric, and the table of all rankings. -/
structure TablesShow (rows : List Observation) (metrics : List Metric) (baseline : String) :
    Prop where
  bench : ∀ m ∈ metrics, ∀ bench,
    let summaries := ExeSummary.ofRows baseline (Observation.ofBench bench (m.select rows))
    ∃ records, Tables.bench summaries = Csv.table benchHeader records ∧
      List.Forall₂ (fun s record =>
        ShowsStats benchHeader (Grouping.valuesAt Grouping.cell (m.select rows) ⟨bench, s.exe⟩)
          s.stats record ∧
        Shows (under benchHeader record "pct_vs_baseline") s.gain ∧
        Shows (under benchHeader record "cov") s.stats.cov) summaries records
  master : ∀ m ∈ metrics, ∃ records,
    Tables.master (m.select rows) = Csv.table masterHeader records ∧
      List.Forall₂ (fun e record =>
        ShowsStats masterHeader (Grouping.valuesAt Grouping.cell (m.select rows) e.1) e.2 record)
        (Grouping.stats Grouping.cell (m.select rows)).entries records
  overall : ∀ m ∈ metrics, ∀ c, Comparison.ofRows (m.select rows) baseline = some c →
    ∃ records, Tables.overall c = Csv.table overallHeader records ∧
      List.Forall₂ (ShowsRanked overallHeader) c.ranking records
  combined : ∃ records, MetricComparison.table (MetricComparison.all rows metrics baseline) =
      Csv.table ("metric" :: overallHeader) records ∧
    List.Forall₂ (ShowsRanked ("metric" :: overallHeader))
      ((MetricComparison.all rows metrics baseline).flatMap fun m =>
        m.comparison.toList.flatMap (·.ranking)) records

variable {rows : List Observation} {baseline bench : String}

theorem ofValues_of_mem_ofRows {s : ExeSummary}
    (h : s ∈ ExeSummary.ofRows baseline (Observation.ofBench bench rows)) :
    Stats.ofValues (Grouping.valuesAt Grouping.cell rows ⟨bench, s.exe⟩) = some s.stats := by
  have entry := (List.mergeSort_perm _ _).mem_iff.mp h
  obtain ⟨e, he, rfl⟩ := List.mem_map.mp entry
  rw [← Grouping.valuesAt_ofBench, ← Grouping.get?_stats]
  exact Table.get?_eq_some_iff.mpr he

theorem ofValues_of_mem_stats {e : Pair String String × Stats}
    (h : e ∈ (Grouping.stats Grouping.cell rows).entries) :
    Stats.ofValues (Grouping.valuesAt Grouping.cell rows e.1) = some e.2 := by
  rw [← Grouping.get?_stats]
  exact Table.get?_eq_some_iff.mpr h

theorem length_benches_le {c : Comparison} (h : Comparison.ofRows rows baseline = some c) :
    c.benches.length ≤ rows.length := by
  have once : c.benches.Nodup := by
    rw [(Comparison.eq_of_ofMeans h).2.1]
    exact (Table.ascending _).nodup
  have named : c.benches ⊆ rows.map (·.bench) := by
    intro bench hb
    rw [Comparison.mem_benches_iff h, BenchMeans.mean?_ofRows, Option.isSome_map,
      Sample.isSome_ofValues_iff, Grouping.valuesAt_ne_nil_iff] at hb
    obtain ⟨o, ho, same, _⟩ := hb
    exact List.mem_map.mpr ⟨o, ho, congrArg Pair.first same⟩
  exact (once.subperm named).length_le.trans_eq (List.length_map _)

theorem isNaN_winRate {c : Comparison} (h : Comparison.ofRows rows baseline = some c)
    (word : rows.length < 2 ^ 64) {r : Ranked} (hr : r ∈ c.ranking) : r.winRate.isNaN = false := by
  rw [Comparison.winRate_eq h hr]
  exact Double.share_isNaN (Comparison.length_benches_pos h) (c.winsOf_le _ r.exe)
    ((length_benches_le h).trans_lt word)

theorem word_select (m : Metric) (word : rows.length < 2 ^ 64) :
    (m.select rows).length < 2 ^ 64 :=
  (List.length_filter_le _ _).trans_lt word

/-- A table of records that are made of some things one by one. -/
theorem forall₂_map_of_forall {α : Type} {P : α → List String → Prop} {f : α → List String}
    {xs : List α} (h : ∀ x ∈ xs, P x (f x)) : List.Forall₂ P xs (xs.map f) := by
  rw [List.forall₂_map_right_iff, List.forall₂_same]
  exact h

theorem forall₂_flatMap_of_forall {α β : Type} {P : β → List String → Prop} {f : α → List β}
    {g : α → List (List String)} {xs : List α} (h : ∀ x ∈ xs, List.Forall₂ P (f x) (g x)) :
    List.Forall₂ P (xs.flatMap f) (xs.flatMap g) := by
  induction xs with
  | nil => exact .nil
  | cons x rest ih =>
      obtain ⟨first, later⟩ := List.forall_mem_cons.mp h
      exact List.rel_append first (ih later)

/-- In all tables of statistics only means and medians can be undefined and yet have a text, and
not where the values of their group are close to one another. -/
theorem tablesShow (rows : List Observation) (metrics : List Metric) (baseline : String)
    (word : rows.length < 2 ^ 64) : TablesShow rows metrics baseline where
  bench m _ bench := by
    refine ⟨_, rfl, forall₂_map_of_forall fun s hs => ?_⟩
    exact ⟨showsStats_benchRow (ofValues_of_mem_ofRows hs), shows_defined _, shows_defined _⟩
  master m _ := by
    refine ⟨_, rfl, forall₂_map_of_forall fun e he => ?_⟩
    exact showsStats_masterRow (ofValues_of_mem_stats he) e.1
  overall m _ c hc := by
    refine ⟨_, rfl, forall₂_map_of_forall fun r hr => ?_⟩
    exact showsRanked_overallRow (isNaN_winRate hc (word_select m word) hr)
  combined := by
    refine ⟨_, Report.table_eq _, forall₂_flatMap_of_forall fun m hm => ?_⟩
    refine forall₂_flatMap_of_forall fun c hc => forall₂_map_of_forall fun r hr => ?_
    obtain ⟨metric, _, rfl⟩ := List.mem_map.mp hm
    have compared : Comparison.ofRows (metric.select rows) baseline = some c :=
      Option.mem_toList.mp hc
    exact showsRanked_keyed (isNaN_winRate compared (word_select metric word) hr) metric.key

/-- Two infinite values have no mean, and the text of their mean is that of a NaN. -/
theorem tablesShow_infinite :
    let rows : List Observation :=
      [⟨"A", "X", "s", "total", "ms", "1", some (.infinity false), none, none, none⟩,
        ⟨"A", "X", "s", "total", "ms", "2", some (.infinity true), none, none, none⟩]
    rows.length < 2 ^ 64 ∧ TablesShow rows [.time] "X" ∧
      (Sample.mean (Grouping.valuesAt Grouping.cell rows ⟨"A", "X"⟩)).map number =
        some "NaN" := by
  intro rows
  have word : rows.length < 2 ^ 64 := by decide
  exact ⟨word, tablesShow rows [.time] "X" word, by decide +kernel⟩

end Tables

end Speedup
