import Speedup.Proofs.Chart.Plots
import Speedup.Proofs.Comparison.Contents
import Speedup.Proofs.Sample.Mean

/-!
# Median speedups

The median of a ranking is over all speedups that are numbers, while the distribution that is drawn
beside it is over the finite ones. They are the same sample for an executable without an infinite
speedup (`Bounded`), so that its bar of the detailed chart ends at the median which its label names
(`showsMedian_of_ofMeans`). A mean of zero has an infinite speedup, which moves the one median and
not the other.
-/

namespace Speedup

open Ordered

namespace Chart

variable {metric : Metric} {c : Comparison} {r : Ranked} {exe : String}

/-! ## Bars and labels of an executable -/

/-- The bars of an executable in the second plot of a detailed chart. -/
def medianBars (metric : Metric) (c : Comparison) (exe : String) : List RankBar :=
  (((detailed metric (some c)).inPlot 1).flatMap barsOf).filter (·.exe = exe)

/-- The texts at the speedups of an executable in the third plot of a detailed chart. -/
def spreadLabels (metric : Metric) (c : Comparison) (exe : String) : List RankBar :=
  (((detailed metric (some c)).inPlot 2).flatMap labelsOf).filter (·.exe = exe)

/-- A text says of a sample that this is its median. -/
def NamesMedian (label shown : String) : Prop :=
  ∃ front back, label = front ++ " median=" ++ shown ++ " max=" ++ back

theorem bottomUp_perm (c : Comparison) : (bottomUp c).Perm c.ranking := List.mergeSort_perm _ _

theorem medianBars_eq (names : (c.ranking.map (·.exe)).Nodup) (hr : r ∈ c.ranking) :
    medianBars metric c r.exe = [⟨r.exe, r.median, ratio r.median⟩] := by
  have rows : (bottomUp c).filter (fun x => x.exe = r.exe) = [r] := by
    have distinct := ((bottomUp_perm c).map (·.exe)).nodup_iff.mpr names
    rw [← List.flatMap_singleton' (bottomUp c), List.filter_flatMap,
      flatMap_eq_of_only (a := r) distinct.of_map, if_pos ((bottomUp_perm c).mem_iff.mpr hr)]
    · simp
    · intro x hx other
      have named : x.exe ≠ r.exe := fun same => other (List.inj_on_of_nodup_map distinct hx
        ((bottomUp_perm c).mem_iff.mpr hr) same)
      simp [named]
  have drawn : ((detailed metric (some c)).inPlot 1).flatMap barsOf =
      rankBars (bottomUp c) (·.median) fun r => ratio r.median := by
    simp [detailed, threePlots, inPlot, List.filter_map, barsOf, Function.comp_def]
  rw [medianBars, drawn, rankBars, List.filter_map]
  show ((bottomUp c).filter fun x => x.exe = r.exe).map _ = _
  rw [rows]
  rfl

/-- What is known of the speedups that are drawn, from bottom to top. -/
def spreads (c : Comparison) : List (String × List Double × Stats) :=
  ((bottomUp c).map (·.exe)).filterMap (speedupBox? c)

theorem inPlot_two_detailed (metric : Metric) (c : Comparison) :
    (detailed metric (some c)).inPlot 2 =
      ((spreads c).map fun b => .box b.1 b.2.1) ++
        [.labels ((spreads c).map fun b => ⟨b.1, b.2.2.max, speedupLabel b.2.2⟩)] := by
  simp [detailed, threePlots, inPlot, spreads, List.filter_map, Function.comp_def]

theorem spreadLabels_eq (names : (c.ranking.map (·.exe)).Nodup) (hr : r ∈ c.ranking) :
    spreadLabels metric c r.exe =
      ((Stats.ofValues (c.finiteSpeedups r.exe)).map fun s =>
        ⟨r.exe, s.max, speedupLabel s⟩).toList := by
  have order := (bottomUp_perm c).map (·.exe)
  have no_text (boxes : List (String × List Double × Stats)) :
      (boxes.map fun b => Trace.box b.1 b.2.1).flatMap labelsOf = [] := by
    simp [List.flatMap_map, labelsOf]
  rw [spreadLabels, inPlot_two_detailed, List.flatMap_append, no_text, List.nil_append,
    List.flatMap_singleton, labelsOf, spreads, List.filterMap_eq_flatMap_toList,
    List.map_flatMap, List.filter_flatMap,
    flatMap_eq_of_only (a := r.exe) (order.nodup_iff.mpr names),
    if_pos (order.mem_iff.mpr (List.mem_map.mpr ⟨r, hr, rfl⟩)), speedupBox?]
  · cases Stats.ofValues (c.finiteSpeedups r.exe) <;> simp
  · intro x _ other
    rw [speedupBox?]
    cases Stats.ofValues (c.finiteSpeedups x) <;> simp [other]

theorem namesMedian_speedupLabel (s : Stats) :
    NamesMedian (speedupLabel s) (Decimal.fixed 3 s.median ++ "x") := by
  refine ⟨"min=" ++ Decimal.fixed 3 s.min ++ "x mean=" ++ Decimal.fixed 3 s.mean ++ "x",
    Decimal.fixed 3 s.max ++ "x", ?_⟩
  rw [speedupLabel]
  simp only [String.append_assoc]
  rfl

end Chart

/-! ## The two medians -/

namespace Comparison

variable {means : BenchMeans} {baseline exe : String} {c : Comparison} {r : Ranked}

/-- An executable has no infinite speedup. -/
def Bounded (c : Comparison) (exe : String) : Prop :=
  ∀ s ∈ c.speedupsOn exe, s.isNaN = false → s.isFinite = true

/-- What a ranking and its detailed chart show of an executable's median speedup. -/
structure ShowsMedian (c : Comparison) (metric : Metric) (r : Ranked) : Prop where
  /-- Infinite speedups count for the median. -/
  over_numbers :
    r.median = (Sample.median ((c.speedupsOn r.exe).filter (!·.isNaN))).getD Stats.undefined
  /-- Without any, it is the median of the speedups that are drawn. -/
  over_finite : c.Bounded r.exe →
    r.median = (Sample.median (c.finiteSpeedups r.exe)).getD Stats.undefined
  undefined_iff : c.Bounded r.exe → (r.median.isNaN = true ↔ c.finiteSpeedups r.exe = [])
  bar : Chart.medianBars metric c r.exe = [⟨r.exe, r.median, Chart.ratio r.median⟩]
  /-- There is a text exactly for what is drawn. -/
  label : Chart.spreadLabels metric c r.exe =
    ((Stats.ofValues (c.finiteSpeedups r.exe)).map fun s =>
      ⟨r.exe, s.max, Chart.speedupLabel s⟩).toList
  /-- Bar and text agree on the median, and show it alike if it is finite. -/
  agree : c.Bounded r.exe → ∀ s ∈ Stats.ofValues (c.finiteSpeedups r.exe), s.median = r.median ∧
    (r.median.isFinite = true →
      Chart.NamesMedian (Chart.speedupLabel s) (Chart.ratio r.median))

/-- Without infinite speedups the finite ones are those that are numbers. -/
theorem finiteSpeedups_eq_numbers (h : ofMeans means baseline = some c) (bounded : c.Bounded exe) :
    c.finiteSpeedups exe = (c.speedupsOn exe).filter (!·.isNaN) := by
  rw [finiteSpeedups_eq h]
  refine List.filter_congr fun s hs => ?_
  cases nan : s.isNaN with
  | true =>
      cases finite : s.isFinite with
      | true => rw [Double.isNaN_of_isFinite finite] at nan; cases nan
      | false => rfl
  | false => exact bounded s hs nan

theorem median_eq_finite (h : ofMeans means baseline = some c) (hr : r ∈ c.ranking)
    (bounded : c.Bounded r.exe) :
    r.median = (Sample.median (c.finiteSpeedups r.exe)).getD Stats.undefined := by
  rw [median_eq h hr, finiteSpeedups_eq_numbers h bounded]

theorem isFinite_of_mem_finiteSpeedups (h : ofMeans means baseline = some c) {s : Double}
    (hs : s ∈ c.finiteSpeedups exe) : s.isFinite = true := by
  rw [finiteSpeedups_eq h] at hs
  exact (List.mem_filter.mp hs).2

theorem isNaN_median_iff (h : ofMeans means baseline = some c) (hr : r ∈ c.ranking)
    (bounded : c.Bounded r.exe) : r.median.isNaN = true ↔ c.finiteSpeedups r.exe = [] := by
  rw [median_eq_finite h hr bounded, ← Sample.median_eq_none_iff]
  cases found : Sample.median (c.finiteSpeedups r.exe) with
  | none => exact iff_of_true (by decide) rfl
  | some m =>
      have number := Sample.isNaN_median (fun s hs => isFinite_of_mem_finiteSpeedups h hs) found
      simp [number]

/-- In every comparison the median of a row is that of the speedups drawn for it, if none of its
speedups is infinite, and its bar and its text show the same one. -/
theorem showsMedian_of_ofMeans (means : BenchMeans) (baseline : String) (metric : Metric) :
    ∀ c ∈ ofMeans means baseline, ∀ r ∈ c.ranking, c.ShowsMedian metric r := by
  intro c h r hr
  have names := (describes_of_ofMeans h).exes_nodup
  refine ⟨median_eq h hr, median_eq_finite h hr, isNaN_median_iff h hr,
    Chart.medianBars_eq names hr, Chart.spreadLabels_eq names hr, ?_⟩
  intro bounded s hs
  have same : s.median = r.median := by
    rw [median_eq_finite h hr bounded, ← Sample.map_median_ofValues, hs]
    rfl
  refine ⟨same, fun finite => ?_⟩
  rw [Chart.ratio, if_pos finite, ← same]
  exact Chart.namesMedian_speedupLabel s

theorem median_halves : Sample.median [(1 : Double), 1 / 2] = some (3 / 4) := by
  rw [Sample.median, Sample.sorted_eq (.swap (1 / 2) 1 []) (by decide +kernel)]
  decide +kernel

theorem exists_label_halves : ∃ s, Stats.ofValues [1, 1 / 2] = some s ∧
    Chart.speedupLabel s = "min=0.500x mean=0.750x median=0.750x max=1.000x" := by
  have mean : Sample.mean [(1 : Double), 1 / 2] = some (3 / 4) := by decide +kernel
  rw [Stats.ofValues, mean, median_halves]
  exact ⟨_, rfl, by decide +kernel⟩

/-- Neither a NaN nor an even number of speedups tells them apart. -/
theorem showsMedian_of_ofMeans_even :
    ∃ c ∈ ofMeans ⟨[("A", ⟨[("X", 1), ("base", 1)], by decide⟩),
          ("B", ⟨[("X", .nan false), ("base", 1)], by decide⟩),
          ("C", ⟨[("X", 2), ("base", 1)], by decide⟩)], by decide⟩ "base",
      ∃ r ∈ c.ranking, r.exe = "X" ∧ r.median = 3 / 4 ∧
        (Chart.medianBars .time c "X").map (·.label) = ["0.750x"] ∧
        (Chart.spreadLabels .time c "X").map (·.label) =
          ["min=0.500x mean=0.750x median=0.750x max=1.000x"] := by
  let means : BenchMeans := ⟨[("A", ⟨[("X", 1), ("base", 1)], by decide⟩),
    ("B", ⟨[("X", .nan false), ("base", 1)], by decide⟩),
    ("C", ⟨[("X", 2), ("base", 1)], by decide⟩)], by decide⟩
  obtain ⟨c, h⟩ := Option.isSome_iff_exists.mp
    (by decide +kernel : (ofMeans means "base").isSome = true)
  have speedups : c.speedupsOn "X" = [1, .nan false, 1 / 2] := by
    rw [← values_speedupsIn h]
    decide +kernel
  have drawn : c.finiteSpeedups "X" = [1, 1 / 2] := by
    rw [finiteSpeedups_eq h, speedups]
    decide +kernel
  have bounded : c.Bounded "X" := by
    rw [Bounded, speedups]
    decide +kernel
  obtain ⟨r, hr, named⟩ : ∃ r ∈ c.ranking, r.exe = "X" :=
    List.mem_map.mp ((mem_exes_ranking_iff h).mpr
      ⟨"A", (mem_benches_iff h).mpr (by decide +kernel), by decide +kernel⟩)
  obtain ⟨s, halves, text⟩ := exists_label_halves
  obtain ⟨-, median, -, bar, label, -⟩ := showsMedian_of_ofMeans means "base" .time c h r hr
  rw [named] at median bar label
  rw [drawn, median_halves] at median
  rw [drawn, halves] at label
  have three_quarters : r.median = 3 / 4 := median bounded
  refine ⟨c, h, r, hr, named, three_quarters, ?_, ?_⟩
  · rw [bar, three_quarters]
    decide +kernel
  · rw [label]
    exact congrArg (fun text => [text]) text

/-- A mean of zero counts for the median alone. -/
theorem median_ne_of_infinite :
    ∃ c ∈ ofMeans ⟨[("A", ⟨[("X", 0), ("base", 1)], by decide⟩),
          ("B", ⟨[("X", 1), ("base", 1)], by decide⟩),
          ("C", ⟨[("X", 2), ("base", 1)], by decide⟩)], by decide⟩ "base",
      ∃ r ∈ c.ranking, r.exe = "X" ∧ r.median = 1 ∧
        Sample.median (c.finiteSpeedups "X") = some (3 / 4) ∧
        (Chart.medianBars .time c "X").map (·.label) = ["1.000x"] ∧
        (Chart.spreadLabels .time c "X").map (·.label) =
          ["min=0.500x mean=0.750x median=0.750x max=1.000x"] := by
  let means : BenchMeans := ⟨[("A", ⟨[("X", 0), ("base", 1)], by decide⟩),
    ("B", ⟨[("X", 1), ("base", 1)], by decide⟩),
    ("C", ⟨[("X", 2), ("base", 1)], by decide⟩)], by decide⟩
  obtain ⟨c, h⟩ := Option.isSome_iff_exists.mp
    (by decide +kernel : (ofMeans means "base").isSome = true)
  have speedups : c.speedupsOn "X" = [.infinity false, 1, 1 / 2] := by
    rw [← values_speedupsIn h]
    decide +kernel
  have drawn : c.finiteSpeedups "X" = [1, 1 / 2] := by
    rw [finiteSpeedups_eq h, speedups]
    decide +kernel
  obtain ⟨r, hr, named⟩ : ∃ r ∈ c.ranking, r.exe = "X" :=
    List.mem_map.mp ((mem_exes_ranking_iff h).mpr
      ⟨"A", (mem_benches_iff h).mpr (by decide +kernel), by decide +kernel⟩)
  have median := median_eq h hr
  have numbers : [.infinity false, 1, 1 / 2].filter (fun s : Double => !s.isNaN) =
      [.infinity false, 1, 1 / 2] := by decide +kernel
  have ordered : Sample.sorted [Double.infinity false, 1, 1 / 2] = [1 / 2, 1, .infinity false] :=
    Sample.sorted_eq (by decide +kernel) (by decide +kernel)
  rw [named, speedups, numbers, Sample.median, ordered] at median
  have one : r.median = 1 := median.trans (by decide +kernel)
  obtain ⟨s, halves, text⟩ := exists_label_halves
  have names := (describes_of_ofMeans h).exes_nodup
  have bar : Chart.medianBars .time c r.exe = _ := Chart.medianBars_eq names hr
  have label : Chart.spreadLabels .time c r.exe = _ := Chart.spreadLabels_eq names hr
  rw [named] at bar label
  refine ⟨c, h, r, hr, named, one, by rw [drawn, median_halves], ?_, ?_⟩
  · rw [bar, one]
    decide +kernel
  · rw [label, drawn, halves]
    exact congrArg (fun text => [text]) text

end Comparison

end Speedup
