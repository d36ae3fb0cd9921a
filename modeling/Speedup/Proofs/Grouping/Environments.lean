import Mathlib.Algebra.Order.Ring.Nat
import Speedup.Proofs.Report.Documents
import Speedup.Proofs.Sample.Extremes

/-!
# Environments divide up the statistics

A report has a table of all benchmarks for a metric, and one more for every environment that is
found among the observations. The observations of the metric in these environments are all of its
observations, each in one environment (`scope_perm`). So the values of an executable on a benchmark
are divided up as well, although it may be missing from some environments: their numbers add up, and
the extremes over all are the outermost of those of the environments (`dividesUp`).
-/

namespace Speedup.Grouping

open Ordered

variable {metric : Metric} {rows : List Observation} {o : Observation} {envid : String}
  {k : Pair String String} {s : Stats}

/-- The observations of a metric in an environment. -/
def scope (metric : Metric) (rows : List Observation) (envid : String) : List Observation :=
  metric.select (Observation.ofEnvironment envid rows)

theorem mem_scope_iff : o ∈ scope metric rows envid ↔ o ∈ metric.select rows ∧ o.envid = envid := by
  simp only [scope, Metric.mem_select, Observation.mem_ofEnvironment]
  exact and_right_comm

theorem scope_eq_filter (metric : Metric) (rows : List Observation) (envid : String) :
    scope metric rows envid = (metric.select rows).filter fun o => o.envid = envid := by
  unfold scope Metric.select Observation.ofEnvironment
  rw [List.filter_comm]
  rfl

theorem mem_environments_of_select (h : o ∈ metric.select rows) : o.envid ∈ environments rows :=
  mem_environments_iff.mpr ⟨o, (Metric.mem_select.mp h).1, rfl⟩

/-! ## Observations -/

/-- Every observation of a metric is in the scope of one environment. -/
theorem existsUnique_environment (h : o ∈ metric.select rows) :
    ∃! envid, envid ∈ environments rows ∧ o ∈ scope metric rows envid := by
  refine ⟨o.envid, ⟨mem_environments_of_select h, mem_scope_iff.mpr ⟨h, rfl⟩⟩, ?_⟩
  rintro envid ⟨-, there⟩
  exact (mem_scope_iff.mp there).2.symm

/-- The scopes of all environments hold what is observed of a metric, as often as it is. -/
theorem scope_perm (metric : Metric) (rows : List Observation) :
    ((environments rows).flatMap (scope metric rows)).Perm (metric.select rows) := by
  rw [funext (scope_eq_filter metric rows)]
  exact flatMap_filter_perm (·.envid) (ascending_distinct _).nodup
    fun _ ho => mem_environments_of_select ho

/-! ## Values -/

/-- The values of a cell in an environment are those that come from there. -/
theorem valuesAt_scope (metric : Metric) (rows : List Observation) (envid : String)
    (k : Pair String String) : valuesAt cell (scope metric rows envid) k =
      (((metric.select rows).filter fun o => cell o = k).filter
        fun o => o.envid = envid).filterMap (·.value) := by
  rw [valuesAt, scope_eq_filter, List.filter_comm]

theorem valuesAt_scope_perm (metric : Metric) (rows : List Observation)
    (k : Pair String String) :
    ((environments rows).flatMap fun envid => valuesAt cell (scope metric rows envid) k).Perm
      (valuesAt cell (metric.select rows) k) := by
  have whole : (valuesAt cell _ k).Perm (valuesAt cell _ k) :=
    valuesAt_perm (scope_perm metric rows) k
  unfold valuesAt at whole ⊢
  rwa [List.filter_flatMap, List.filterMap_flatMap] at whole

/-! ## Statistics -/

/-- The statistics of a cell in the environments that have any, in the order of environments. -/
def statsByEnvironment (metric : Metric) (rows : List Observation) (k : Pair String String) :
    List Stats :=
  (environments rows).filterMap fun envid => (stats cell (scope metric rows envid)).get? k

theorem mem_statsByEnvironment_iff : s ∈ statsByEnvironment metric rows k ↔
    ∃ envid ∈ environments rows,
      Stats.ofValues (valuesAt cell (scope metric rows envid) k) = some s := by
  simp only [statsByEnvironment, List.mem_filterMap, get?_stats]

theorem sum_n_filterMap (parts : String → List Double) (envids : List String) :
    ((envids.filterMap fun envid => Stats.ofValues (parts envid)).map (·.n)).sum =
      (envids.flatMap parts).length := by
  induction envids with
  | nil => rfl
  | cons envid rest ih =>
      rw [List.filterMap_cons, List.flatMap_cons, List.length_append, ← ih]
      cases own : Stats.ofValues (parts envid) with
      | none =>
          have some_stats : parts envid ≠ [] → (Stats.ofValues (parts envid)).isSome :=
            Sample.isSome_ofValues_iff.mpr
          have nothing : parts envid = [] := by simpa [own] using some_stats
          rw [nothing, List.length_nil, Nat.zero_add]
      | some s => rw [List.map_cons, List.sum_cons, (Stats.eq_of_ofValues own).2.2.2.2]

/-- The numbers of values in the environments add up to that of all. -/
theorem n_eq_sum (h : (stats cell (metric.select rows)).get? k = some s) :
    s.n = ((statsByEnvironment metric rows k).map (·.n)).sum := by
  rw [get?_stats] at h
  unfold statsByEnvironment
  simp only [get?_stats]
  rw [sum_n_filterMap, (valuesAt_scope_perm metric rows k).length_eq,
    (Stats.eq_of_ofValues h).2.2.2.2]

/-- There are statistics of a cell where an environment has some. -/
theorem isSome_stats_iff : ((stats cell (metric.select rows)).get? k).isSome ↔
    ∃ envid ∈ environments rows, ((stats cell (scope metric rows envid)).get? k).isSome := by
  simp only [get?_stats, Sample.isSome_ofValues_iff, valuesAt_ne_nil_iff]
  constructor
  · rintro ⟨o, ho, here, value⟩
    exact ⟨o.envid, mem_environments_of_select ho, o, mem_scope_iff.mpr ⟨ho, rfl⟩, here, value⟩
  · rintro ⟨envid, -, o, ho, here, value⟩
    exact ⟨o, (mem_scope_iff.mp ho).1, here, value⟩

section Extremes

variable {L : Type} [LinearOrder L] {rank : Double → L} {shown : Stats → Double}

/-- An extreme that statistics show is over all environments the outermost one. -/
theorem extreme_spec (e : Sample.Extreme rank)
    (shows_extreme : ∀ {xs s}, Stats.ofValues xs = some s → shown s = e.of xs)
    (h : (stats cell (metric.select rows)).get? k = some s) :
    shown s ∈ (statsByEnvironment metric rows k).map shown ∧
      ∀ part ∈ statsByEnvironment metric rows k, rank (shown s) ≤ rank (shown part) := by
  rw [get?_stats] at h
  have some_value := Sample.isSome_ofValues_iff.mp (Option.isSome_of_eq_some h)
  constructor
  · obtain ⟨o, ho, value, same⟩ := e.exists_part (·.envid) some_value
    rw [← valuesAt_scope] at same
    obtain ⟨ho, here⟩ := List.mem_filter.mp ho
    have own : valuesAt cell (scope metric rows o.envid) k ≠ [] :=
      valuesAt_ne_nil_iff.mpr ⟨o, mem_scope_iff.mpr ⟨ho, rfl⟩, of_decide_eq_true here, value⟩
    obtain ⟨part, hpart⟩ := Option.isSome_iff_exists.mp (Sample.isSome_ofValues_iff.mpr own)
    refine List.mem_map.mpr ⟨part, mem_statsByEnvironment_iff.mpr
      ⟨o.envid, mem_environments_of_select ho, hpart⟩, ?_⟩
    rw [shows_extreme hpart, same, shows_extreme h]
    rfl
  · intro part hpart
    obtain ⟨envid, -, own⟩ := mem_statsByEnvironment_iff.mp hpart
    rw [shows_extreme h, shows_extreme own, valuesAt_scope]
    exact e.rank_le_part _

end Extremes

/-! ## Tables of a report -/

section Written

variable {root : Path} {metrics : List Metric} {baseline : String}

theorem master_mem_metricSteps (within : List Path) (some_row : rows ≠ []) :
    .write (within ++ Report.masterPlace metric.key) (.text (Tables.master rows)) ∈
      Report.metricSteps root within metric rows baseline := by
  have full : ¬ rows.isEmpty = true := by rwa [List.isEmpty_iff]
  rw [Report.metricSteps, if_neg full]
  exact List.mem_append_right _ (List.mem_singleton.mpr rfl)

/-- The table of all benchmarks of a metric is written. -/
theorem master_mem_steps (hm : metric ∈ metrics) (some_row : metric.select rows ≠ []) :
    .write (Report.masterPlace metric.key) (.text (Tables.master (metric.select rows))) ∈
      Report.steps root rows metrics baseline true := by
  have values : .write (Report.masterPlace metric.key)
        (.text (Tables.master (metric.select rows))) ∈
      (MetricComparison.all rows metrics baseline).flatMap (Report.valueSteps root baseline) :=
    List.mem_flatMap.mpr ⟨_, List.mem_map_of_mem hm,
      List.mem_append_left _ (master_mem_metricSteps [] some_row)⟩
  unfold Report.steps Report.mainSteps
  simp only [List.mem_append]
  exact .inl (.inl (.inl (.inl (.inr values))))

theorem master_mem_steps_environment (hm : metric ∈ metrics) (he : envid ∈ environments rows)
    (some_row : scope metric rows envid ≠ []) :
    .write (Report.environmentPlace envid ++ Report.masterPlace metric.key)
        (.text (Tables.master (scope metric rows envid))) ∈
      Report.steps root rows metrics baseline true := by
  unfold Report.steps
  refine List.mem_append_right _ (List.mem_flatMap.mpr ⟨envid, he, List.mem_append_left _ ?_⟩)
  exact List.mem_flatMap.mpr ⟨metric, hm, master_mem_metricSteps _ some_row⟩

end Written

/-! ## The division -/

/-- What it means that the environments divide up a metric: its observations, and by benchmark and
executable the statistics that its table is made of. -/
structure DividesUp (metric : Metric) (rows : List Observation) : Prop where
  one_environment : ∀ o ∈ metric.select rows,
    ∃! envid, envid ∈ environments rows ∧ o ∈ scope metric rows envid
  as_often : ((environments rows).flatMap (scope metric rows)).Perm (metric.select rows)
  exist : ∀ k, ((stats cell (metric.select rows)).get? k).isSome ↔
    ∃ envid ∈ environments rows, ((stats cell (scope metric rows envid)).get? k).isSome
  n : ∀ k s, (stats cell (metric.select rows)).get? k = some s →
    s.n = ((statsByEnvironment metric rows k).map (·.n)).sum
  /-- The least value over all is the least one of an environment, and at most that of any. -/
  min : ∀ k s, (stats cell (metric.select rows)).get? k = some s →
    s.min ∈ (statsByEnvironment metric rows k).map (·.min) ∧
      ∀ part ∈ statsByEnvironment metric rows k, s.min.AtMost part.min
  max : ∀ k s, (stats cell (metric.select rows)).get? k = some s →
    s.max ∈ (statsByEnvironment metric rows k).map (·.max) ∧
      ∀ part ∈ statsByEnvironment metric rows k, part.max.AtMost s.max
  /-- A report writes the tables of these statistics, over all and by environment. -/
  written : ∀ root metrics baseline, metric ∈ metrics → metric.select rows ≠ [] →
    .write (Report.masterPlace metric.key) (.text (Tables.master (metric.select rows))) ∈
      Report.steps root rows metrics baseline true
  written_environment : ∀ root metrics baseline, metric ∈ metrics →
    ∀ envid ∈ environments rows, scope metric rows envid ≠ [] →
      .write (Report.environmentPlace envid ++ Report.masterPlace metric.key)
          (.text (Tables.master (scope metric rows envid))) ∈
        Report.steps root rows metrics baseline true

/-- Every metric is divided up by the environments of any observations, also where a value is a
NaN: it is counted, and no extreme sees it. -/
theorem dividesUp (metric : Metric) (rows : List Observation) : DividesUp metric rows where
  one_environment _ ho := existsUnique_environment ho
  as_often := scope_perm metric rows
  exist _ := isSome_stats_iff
  n _ _ h := n_eq_sum h
  min k s h := by
    obtain ⟨mem, lowest⟩ := extreme_spec Sample.minimum Stats.min_eq h
    refine ⟨mem, fun part hpart => Double.atMost_iff_level.mpr ⟨?_, lowest part hpart⟩⟩
    exact Stats.isNaN_min (get?_stats cell _ k ▸ h)
  max k s h := by
    obtain ⟨mem, greatest⟩ := extreme_spec Sample.maximum Stats.max_eq h
    refine ⟨mem, fun part hpart => Double.atMost_iff_level.mpr ⟨?_, greatest part hpart⟩⟩
    obtain ⟨_, -, own⟩ := mem_statsByEnvironment_iff.mp hpart
    exact Stats.isNaN_max own
  written _ _ _ hm some_row := master_mem_steps hm some_row
  written_environment _ _ _ hm _ he some_row := master_mem_steps_environment hm he some_row

end Speedup.Grouping
