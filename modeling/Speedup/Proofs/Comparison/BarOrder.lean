import Speedup.Proofs.Chart.Plots
import Speedup.Proofs.Comparison.Contents

/-!
# The order of the bars

Bars of executables are sorted by geometric mean in the order of bit patterns and drawn from bottom
to top, while a ranking goes by numbers and puts undefined ones last. For numbers the two orders
agree, so of two executables with a geometric mean the better one is drawn above the other one in
every chart. An executable without a usable speedup has the NaN that comes after all numbers for its
mean, and is drawn above all that have one (`drawnAbove_of_outranks`).
-/

namespace Speedup

namespace Chart

variable {c : Comparison} {a b : Ranked}

/-! ## What it means to be above -/

/-- Among bars, which are drawn from bottom to top, one executable comes after another. -/
def Above (bars : List RankBar) (upper lower : String) : Prop :=
  [lower, upper].Sublist (bars.map (·.exe))

/-- In all charts of a comparison the bars of one executable are above those of another. -/
structure DrawnAbove (c : Comparison) (upper lower : String) : Prop where
  /-- The geometric means, the win rates and the overall means. -/
  summary : ∀ metric overall i, i < 3 →
    ∃ bars, (summary metric (some c) overall).inPlot i = [.bars none bars] ∧
      Above bars upper lower
  /-- The geometric means and the medians. -/
  detailed : ∀ metric i, i < 2 →
    ∃ bars, (detailed metric (some c)).inPlot i = [.bars none bars] ∧ Above bars upper lower
  /-- The geometric means, among those of any other metrics. -/
  dashboard : ∀ metrics metric i, i < maxPlots → metrics[i]? = some (metric, some c) →
    ∃ bars, (dashboard metrics).inPlot i = [.bars (some metric.key) bars] ∧
      Above bars upper lower

/-! ## The bars of the charts -/

theorem above_rankBars {rows : List Ranked} {value : Ranked → Double} {label : Ranked → String}
    (h : [b, a].Sublist rows) : Above (rankBars rows value label) a.exe b.exe := by
  rw [Above, rankBars, List.map_map]
  exact h.map _

theorem inPlot_detailed (metric : Metric) (c : Comparison) :
    (detailed metric (some c)).inPlot 0 = [.bars none (geoMeanBars (bottomUp c))] ∧
      (detailed metric (some c)).inPlot 1 =
        [.bars none (rankBars (bottomUp c) (·.median) fun r => ratio r.median)] := by
  constructor <;> simp [detailed, threePlots, inPlot, List.filter_map, Function.comp_def]

theorem inPlot_dashboard {metrics : List (Metric × Option Comparison)} {metric : Metric} {i : Nat}
    (shown : i < maxPlots) (h : metrics[i]? = some (metric, some c)) :
    (dashboard metrics).inPlot i = [.bars (some metric.key) (geoMeanBars (bottomUp c))] := by
  let draw (m : Metric × Option Comparison) : List Trace := [dashboardTrace m.1 m.2]
  have traces : (dashboard metrics).traces =
      (metrics.take maxPlots).zipIdx.flatMap fun (m, i) => (draw m).map fun t => (i, t) :=
    List.map_eq_flatMap
  rw [inPlot_eq_of_zipIdx draw traces, List.getElem?_take_of_lt shown, h]
  rfl

/-- All charts draw the rows of a ranking in one order. -/
theorem drawnAbove_of_sublist (h : [b, a].Sublist (bottomUp c)) :
    DrawnAbove c a.exe b.exe where
  summary metric overall i hi := by
    have plots : i = 0 ∨ i = 1 ∨ i = 2 := by omega
    rcases plots with rfl | rfl | rfl
    · exact ⟨_, rfl, above_rankBars h⟩
    · exact ⟨_, rfl, above_rankBars h⟩
    · exact ⟨_, rfl, above_rankBars h⟩
  detailed metric i hi := by
    have plots : i = 0 ∨ i = 1 := by omega
    rcases plots with rfl | rfl
    · exact ⟨_, (inPlot_detailed metric c).1, above_rankBars h⟩
    · exact ⟨_, (inPlot_detailed metric c).2, above_rankBars h⟩
  dashboard metrics metric i shown found := ⟨_, inPlot_dashboard shown found, above_rankBars h⟩

/-! ## The order of the rows -/

theorem sublist_or_sublist_of_mem {α : Type} {xs : List α} {x y : α} (hx : x ∈ xs) (hy : y ∈ xs)
    (ne : x ≠ y) : [x, y].Sublist xs ∨ [y, x].Sublist xs := by
  induction xs with
  | nil => cases hx
  | cons z rest ih =>
      rcases List.mem_cons.mp hx with rfl | x_later
      · rcases List.mem_cons.mp hy with rfl | y_later
        · exact absurd rfl ne
        · exact .inl ((List.singleton_sublist.mpr y_later).cons_cons x)
      · rcases List.mem_cons.mp hy with rfl | y_later
        · exact .inr ((List.singleton_sublist.mpr x_later).cons_cons y)
        · exact (ih x_later y_later).imp (.cons z) (.cons z)

theorem pairwise_bottomUp (c : Comparison) :
    (bottomUp c).Pairwise fun x y => x.geoMean.totalLE y.geoMean = true := by
  unfold bottomUp
  apply List.pairwise_mergeSort
  · intro x y z hxy hyz
    exact Double.totalLE_trans hxy hyz
  · intro x y
    exact Double.totalLE_total x.geoMean y.geoMean

/-- What is later among all bit patterns is drawn higher. -/
theorem sublist_bottomUp (ha : a ∈ c.ranking) (hb : b ∈ c.ranking)
    (later : b.geoMean.totalPlace < a.geoMean.totalPlace) : [b, a].Sublist (bottomUp c) := by
  have perm : (bottomUp c).Perm c.ranking := List.mergeSort_perm _ _
  have ne : b ≠ a := by
    rintro rfl
    exact lt_irrefl _ later
  refine (sublist_or_sublist_of_mem (perm.mem_iff.mpr hb) (perm.mem_iff.mpr ha) ne).resolve_right
    fun other => ?_
  have atMost := List.pairwise_pair.mp ((pairwise_bottomUp c).sublist other)
  rw [Double.totalLE, decide_eq_true_eq] at atMost
  exact absurd later atMost.not_gt

end Chart

/-! ## The ranking and the charts -/

namespace Comparison

variable {means : BenchMeans} {baseline : String} {c : Comparison} {r : Ranked}

/-- Without a usable speedup the geometric mean is the NaN that stands for what is undefined. -/
theorem geoMean_eq_undefined (h : ofMeans means baseline = some c) (hr : r ∈ c.ranking)
    (nothing : Sample.usable (c.speedupsOn r.exe) = []) : r.geoMean = Stats.undefined := by
  rw [geoMean_eq h hr, geometricMean, Sample.geometricMean, nothing]
  rfl

/-- Where a ranking prefers one executable to another by geometric mean, all charts draw it above
the other one if that has a geometric mean as well. An executable without a usable speedup is drawn
above it. -/
theorem drawnAbove_of_outranks (means : BenchMeans) (baseline : String) :
    ∀ c ∈ ofMeans means baseline, ∀ a ∈ c.ranking, ∀ b ∈ c.ranking,
      Ranked.Outranks a.geoMean b.geoMean →
      (b.geoMean.isNaN = false → Chart.DrawnAbove c a.exe b.exe) ∧
      (Sample.usable (c.speedupsOn b.exe) = [] → Chart.DrawnAbove c b.exe a.exe) := by
  rintro c h a ha b hb ⟨number, better⟩
  constructor
  · intro defined
    have less : b.geoMean.lt a.geoMean = true := by
      rcases better with undefined | less
      · rw [defined] at undefined
        cases undefined
      · exact less
    exact Chart.drawnAbove_of_sublist
      (Chart.sublist_bottomUp ha hb (Double.totalPlace_lt_of_lt less))
  · intro nothing
    refine Chart.drawnAbove_of_sublist (Chart.sublist_bottomUp hb ha ?_)
    rw [geoMean_eq_undefined h hb nothing]
    exact Double.totalPlace_lt_nan number

/-- The baseline is drawn above the slower `X`, and `Z` with its mean of zero above both. -/
theorem drawnAbove_of_outranks_zero :
    ∃ c ∈ ofMeans ⟨[("A", ⟨[("X", 2), ("Z", 0), ("base", 1)], by decide⟩)], by decide⟩ "base",
      ∃ base ∈ c.ranking, ∃ x ∈ c.ranking, ∃ z ∈ c.ranking,
        (base.exe = "base" ∧ x.exe = "X" ∧ z.exe = "Z") ∧
        Ranked.Outranks base.geoMean x.geoMean ∧ Ranked.Outranks base.geoMean z.geoMean ∧
        Chart.DrawnAbove c "base" "X" ∧ Chart.DrawnAbove c "Z" "base" := by
  let means : BenchMeans := ⟨[("A", ⟨[("X", 2), ("Z", 0), ("base", 1)], by decide⟩)], by decide⟩
  obtain ⟨c, h⟩ := Option.isSome_iff_exists.mp
    (by decide +kernel : (ofMeans means "base").isSome = true)
  have ranked (exe : String) (measured : (means.mean? "A" exe).isSome = true) :
      ∃ r ∈ c.ranking, r.exe = exe ∧
        r.geoMean = geometricMean (speedupsIn (compared means "base") "base" exe).values := by
    obtain ⟨r, hr, named⟩ := List.mem_map.mp ((mem_exes_ranking_iff h).mpr
      ⟨"A", (mem_benches_iff h).mpr (by decide +kernel), measured⟩)
    exact ⟨r, hr, named, by rw [geoMean_eq h hr, ← values_speedupsIn h, named]⟩
  obtain ⟨base, hbase, base_named, base_mean⟩ := ranked "base" (by decide +kernel)
  obtain ⟨x, hx, x_named, x_mean⟩ := ranked "X" (by decide +kernel)
  obtain ⟨z, hz, z_named, z_mean⟩ := ranked "Z" (by decide +kernel)
  have over_x : Ranked.Outranks base.geoMean x.geoMean := by
    rw [base_mean, x_mean]
    decide +kernel
  have over_z : Ranked.Outranks base.geoMean z.geoMean := by
    rw [base_mean, z_mean]
    decide +kernel
  have nothing : Sample.usable (c.speedupsOn z.exe) = [] := by
    rw [← values_speedupsIn h, z_named]
    decide +kernel
  have x_defined : x.geoMean.isNaN = false := by
    rw [x_mean]
    decide +kernel
  refine ⟨c, h, base, hbase, x, hx, z, hz, ⟨base_named, x_named, z_named⟩, over_x, over_z, ?_, ?_⟩
  · rw [← base_named, ← x_named]
    exact (drawnAbove_of_outranks means "base" c h base hbase x hx over_x).1 x_defined
  · rw [← base_named, ← z_named]
    exact (drawnAbove_of_outranks means "base" c h base hbase z hz over_z).2 nothing

end Comparison

end Speedup
