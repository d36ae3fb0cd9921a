import Speedup.Proofs.Overview
import Speedup.Proofs.Report.Fewer

/-!
# Metrics that are not compared

A metric is compared if the baseline has a value in it (`Compared`), and skipped otherwise. Whether
it is can be seen in all that a report or a comparison leaves: there is a table of its ranking or
none, the table of all rankings has records of it or none, the text lists its ranking or says that
there is no result, the charts have bars or a remark. Each of these asks in its own way, for a
comparison, a row of a ranking or an entry of a list, and all of them get the same answer
(`shownAlike`). The log warns of what is skipped, if there is anything to skip (`warnedAlike`), and
nothing fails for want of a comparison (`neverStopped`).
-/

namespace Speedup.Report

open Files Ordered
open Tables (fileStem)

variable {t : Files.Tree Document} {root : Path} {rows : List Observation} {metrics : List Metric}
  {baseline : String} {m : Metric} {output : Path}

/-! ## Metrics that are compared -/

/-- The baseline has a value in a metric. -/
def Compared (rows : List Observation) (baseline : String) (m : Metric) : Prop :=
  ∃ o ∈ rows, m.covers o = true ∧ o.exe = baseline ∧ o.value.isSome = true

instance (rows : List Observation) (baseline : String) (m : Metric) :
    Decidable (Compared rows baseline m) := inferInstanceAs (Decidable (∃ o ∈ rows, _))

theorem isSome_comparison_iff :
    (MetricComparison.ofRows rows baseline m).comparison.isSome ↔ Compared rows baseline m := by
  show (Comparison.ofRows (m.select rows) baseline).isSome ↔ _
  simp only [Comparison.isSome_ofRows_iff, Metric.mem_select, and_assoc, Compared]

theorem eq_of_key_eq (distinct : (metrics.map (·.key)).Nodup) (hm : m ∈ metrics) {m' : Metric}
    (hm' : m' ∈ metrics) (same : m'.key = m.key) : m' = m :=
  List.inj_on_of_nodup_map distinct hm' hm same

theorem Part.eq_overall {part : Part} {key : String} (h : part.place = overallPlace key) :
    part = .overall key := by
  have form : part.form = (Part.overall key).form := by
    apply Form.names_injective
    rw [Part.names_form, Part.names_form, h]
    rfl
  have folders := congrArg Form.folders form
  have stem := congrArg Form.stem form
  have ending := congrArg Form.ending form
  cases part with
  | overall other => rw [(String.append_right_inj _).mp stem]
  | master other => exact absurd stem (master_ne_overall other key)
  | table other bench => simp [Part.form] at folders
  | _ => simp [Part.form] at ending

theorem overall_mem_mainParts_iff (distinct : (metrics.map (·.key)).Nodup) (hm : m ∈ metrics) :
    Part.overall m.key ∈ mainParts rows metrics baseline ↔ Compared rows baseline m := by
  rw [mem_mainParts_iff, mem_environmentParts_iff]
  simp only [mem_metricParts_iff, mem_panelParts_iff, mem_pivotParts_iff, mem_rankingParts_iff,
    reduceCtorEq, Part.overall.injEq, false_and, and_false, or_self, or_false, exists_false,
    false_or, ← isSome_comparison_iff]
  constructor
  · rintro ⟨m', hm', same, compared⟩
    rwa [← eq_of_key_eq distinct hm hm' same.symm]
  · intro compared
    exact ⟨m, hm, rfl, compared⟩

/-- There is a table of the ranking exactly if there is a comparison. -/
theorem overallPlace_mem_iff (distinct : (metrics.map (·.key)).Nodup) (hm : m ∈ metrics)
    (root : Path) (environments : Bool) :
    overallPlace m.key ∈ Step.written (steps root rows metrics baseline environments) ↔
      Compared rows baseline m := by
  rw [written_steps, ← overall_mem_mainParts_iff distinct hm, List.mem_map]
  constructor
  · rintro ⟨⟨environment, part⟩, hi, place⟩
    obtain ⟨rfl, hp⟩ | ⟨_, envid, _, rfl, _⟩ := mem_items_iff.mp hi
    · exact Part.eq_overall place ▸ hp
    · have folder := congrArg List.head? place
      simp [Item.within, scope, environmentPlace, overallPlace] at folder
  · intro there
    exact ⟨⟨none, .overall m.key⟩, mem_items_iff.mpr (.inl ⟨rfl, there⟩), rfl⟩

/-! ## The table of all rankings -/

/-- The records of a comparison, each with the key of its metric in front. -/
def keyedRecords (key : String) (c : Comparison) : List (List String) :=
  c.ranking.map fun r => key :: Tables.overallRow r

/-- The records of the table of all rankings. -/
def combinedRecords (all : List MetricComparison) : List (List String) :=
  all.flatMap fun m => m.comparison.toList.flatMap (keyedRecords m.metric.key)

theorem table_eq (all : List MetricComparison) : MetricComparison.table all =
    Csv.table ("metric" :: Tables.overallHeader) (combinedRecords all) := by
  unfold MetricComparison.table Tables.combined
  refine congrArg (Csv.table _) ?_
  induction all with
  | nil => rfl
  | cons m rest ih =>
      rw [combinedRecords, List.flatMap_cons, ← combinedRecords, ← ih]
      cases hc : m.comparison <;> simp [hc, keyedRecords]

theorem filter_combinedRecords (distinct : (metrics.map (·.key)).Nodup) (hm : m ∈ metrics) :
    (combinedRecords (MetricComparison.all rows metrics baseline)).filter
        (fun record => record.head? = some m.key) =
      (MetricComparison.ofRows rows baseline m).comparison.toList.flatMap (keyedRecords m.key) := by
  unfold combinedRecords MetricComparison.all
  rw [List.flatMap_map, List.filter_flatMap, flatMap_eq_of_only (a := m) distinct.of_map, if_pos hm]
  · refine List.filter_eq_self.mpr fun record hr => ?_
    obtain ⟨c, _, hr⟩ := List.mem_flatMap.mp hr
    obtain ⟨r, _, rfl⟩ := List.mem_map.mp hr
    simp [MetricComparison.ofRows]
  · intro m' hm' other
    refine List.filter_eq_nil_iff.mpr fun record hr => ?_
    obtain ⟨c, _, hr⟩ := List.mem_flatMap.mp hr
    obtain ⟨r, _, rfl⟩ := List.mem_map.mp hr
    have keys : m'.key ≠ m.key := mt (eq_of_key_eq distinct hm hm') other
    simpa [MetricComparison.ofRows] using keys

/-! ## Charts -/

def summaryChart (rows : List Observation) (baseline : String) (m : Metric) : Chart :=
  Chart.summary m (MetricComparison.ofRows rows baseline m).comparison
    (BenchMeans.overall (BenchMeans.ofRows (m.select rows)))

def detailedChart (rows : List Observation) (baseline : String) (m : Metric) : Chart :=
  Chart.detailed m (MetricComparison.ofRows rows baseline m).comparison

def dashboardChart (rows : List Observation) (metrics : List Metric) (baseline : String) : Chart :=
  Chart.dashboard (MetricComparison.drawn (MetricComparison.all rows metrics baseline))

theorem summaryChart_eq_placeholder_iff :
    summaryChart rows baseline m = Chart.placeholder m.key ↔ ¬ Compared rows baseline m := by
  rw [← isSome_comparison_iff, summaryChart]
  cases (MetricComparison.ofRows rows baseline m).comparison with
  | none => simp [Chart.summary]
  | some c => simp [Chart.summary, Chart.threePlots, Chart.placeholder]

theorem detailedChart_eq_placeholder_iff :
    detailedChart rows baseline m = Chart.placeholder m.key ↔ ¬ Compared rows baseline m := by
  rw [← isSome_comparison_iff, detailedChart]
  cases (MetricComparison.ofRows rows baseline m).comparison with
  | none => simp [Chart.detailed]
  | some c => simp [Chart.detailed, Chart.threePlots, Chart.placeholder]

theorem traces_dashboardChart {i : Nat} (first : i < Chart.maxPlots) (here : metrics[i]? = some m) :
    (dashboardChart rows metrics baseline).traces[i]? =
      some (i, Chart.dashboardTrace m (MetricComparison.ofRows rows baseline m).comparison) := by
  simp [dashboardChart, Chart.dashboard, MetricComparison.drawn, MetricComparison.all,
    List.getElem?_map, List.getElem?_zipIdx, List.getElem?_take_of_lt first, here,
    MetricComparison.ofRows]

theorem map_exe_geoMeanBars (c : Comparison) :
    ((Chart.geoMeanBars (Chart.bottomUp c)).map (·.exe)).Perm (c.ranking.map (·.exe)) := by
  unfold Chart.geoMeanBars Chart.rankBars Chart.bottomUp
  rw [List.map_map]
  exact (List.mergeSort_perm _ _).map _

/-! ## Warnings -/

/-- The warning about a metric that is not compared. -/
def skippedNote (baseline key : String) : Log.Entry :=
  ⟨.warn, .reporting, "Baseline '" ++ baseline ++ "' has no observations for metric " ++ key ++
    ", skipping comparison"⟩

theorem skippedNote_injective (baseline : String) :
    Function.Injective (skippedNote baseline) := by
  intro key key' same
  simpa [skippedNote] using same

theorem skippedNote_mem_log_iff {m : MetricComparison} {key : String} :
    skippedNote baseline key ∈ m.log baseline ↔
      m.metric.key = key ∧ m.rows ≠ [] ∧ m.comparison = none := by
  unfold MetricComparison.log
  split
  next nothing => simp_all [skippedNote]
  next something =>
    rw [List.isEmpty_iff] at something
    split
    next missing =>
      have entry : skippedNote baseline key ∈ [skippedNote baseline m.metric.key] ↔
          m.metric.key = key := by
        rw [List.mem_singleton, (skippedNote_injective baseline).eq_iff, eq_comm]
      exact entry.trans ⟨fun same => ⟨same, something, Option.isNone_iff_eq_none.mp missing⟩,
        And.left⟩
    next there => simp_all

theorem skippedNote_mem_notes_iff (distinct : (metrics.map (·.key)).Nodup) (hm : m ∈ metrics) :
    skippedNote baseline m.key ∈
        (MetricComparison.all rows metrics baseline).flatMap (·.log baseline) ↔
      ¬ Compared rows baseline m ∧ ∃ o ∈ rows, m.covers o = true := by
  simp only [MetricComparison.all, List.flatMap_map, List.mem_flatMap, skippedNote_mem_log_iff,
    ← isSome_comparison_iff, Option.not_isSome_iff_eq_none, ← select_ne_nil_iff]
  constructor
  · rintro ⟨m', hm', same, observed, missing⟩
    obtain rfl := eq_of_key_eq distinct hm hm' same
    exact ⟨missing, observed⟩
  · rintro ⟨missing, observed⟩
    exact ⟨m, hm, rfl, observed, missing⟩

/-- Steps that do not log such a warning. -/
def Unwarned (steps : List Step) : Prop :=
  ∀ baseline key, .note (skippedNote baseline key) ∉ steps

theorem unwarned_append_iff {xs ys : List Step} :
    Unwarned (xs ++ ys) ↔ Unwarned xs ∧ Unwarned ys := by
  simp only [Unwarned, List.mem_append, not_or, forall_and]

theorem unwarned_flatMap {β : Type} {xs : List β} {f : β → List Step}
    (h : ∀ x ∈ xs, Unwarned (f x)) : Unwarned (xs.flatMap f) := by
  intro baseline key there
  obtain ⟨x, hx, there⟩ := List.mem_flatMap.mp there
  exact h x hx baseline key there

theorem unwarned_map_note {entries : List Log.Entry}
    (h : ∀ e ∈ entries, e.level = .warn → e.origin ≠ .reporting) :
    Unwarned (entries.map .note) := by
  intro baseline key there
  obtain ⟨e, he, same⟩ := List.mem_map.mp there
  injection same with entry
  exact h e he (by rw [entry]; rfl) (by rw [entry]; rfl)

theorem unwarned_write (within : List Path) (document : Document) :
    Unwarned [.write within document] := by
  simp [Unwarned]

theorem unwarned_chartSteps (place : List Path) (chart : Chart) :
    Unwarned (chartSteps place chart) := by
  simp [Unwarned, chartSteps, skippedNote]

theorem unwarned_metricSteps (root : Path) (within : List Path) (m : Metric)
    (rows : List Observation) (baseline : String) :
    Unwarned (metricSteps root within m rows baseline) := by
  have boxes (bench : String) : Unwarned (boxSteps within m rows baseline bench) := by
    unfold boxSteps
    split <;> simp [Unwarned, skippedNote]
  have tables (place : List Path) (bench : String) :
      Unwarned (benchSteps place rows baseline bench) := by
    simp [Unwarned, benchSteps, skippedNote]
  unfold metricSteps benchTables
  split
  · simp [Unwarned, skippedNote]
  · exact unwarned_append_iff.mpr ⟨unwarned_append_iff.mpr ⟨unwarned_flatMap fun _ _ => boxes _,
      unwarned_flatMap fun _ _ => tables _ _⟩, unwarned_write _ _⟩

theorem unwarned_panelsSteps (within : List Path) (metrics : List Metric)
    (rows : List Observation) : Unwarned (panelsSteps within metrics rows) := by
  refine unwarned_flatMap fun bench _ => ?_
  unfold panelSteps
  refine unwarned_append_iff.mpr ⟨unwarned_map_note ?_, ?_⟩
  · simp [Chart.panelLog]
  · simp [Unwarned]

theorem unwarned_dashboardLog (metrics : List (Metric × Option Comparison)) :
    Unwarned ((Chart.dashboardLog metrics).map .note) :=
  unwarned_map_note (by simp [Chart.dashboardLog])

theorem unwarned_valueSteps (root : Path) (baseline : String) (m : MetricComparison) :
    Unwarned (valueSteps root baseline m) := by
  refine unwarned_append_iff.mpr ⟨unwarned_metricSteps _ _ _ _ _, ?_⟩
  cases Chart.pivot? m.metric (Pivot.ofRows m.rows) with
  | none => simp [Unwarned]
  | some chart => exact unwarned_chartSteps _ _

theorem unwarned_rankingSteps (m : MetricComparison) : Unwarned (rankingSteps m) := by
  refine unwarned_append_iff.mpr ⟨unwarned_append_iff.mpr ⟨?_, unwarned_chartSteps _ _⟩,
    unwarned_chartSteps _ _⟩
  simp [Unwarned]

theorem unwarned_overallSteps (all : List MetricComparison) : Unwarned (overallSteps all) := by
  refine unwarned_append_iff.mpr ⟨unwarned_append_iff.mpr ⟨unwarned_dashboardLog _,
    unwarned_chartSteps _ _⟩, ?_⟩
  simp [Unwarned]

theorem unwarned_environmentSteps (root : Path) (rows : List Observation) (metrics : List Metric)
    (baseline envid : String) :
    Unwarned (environmentSteps root rows metrics baseline envid) :=
  unwarned_append_iff.mpr ⟨unwarned_flatMap fun _ _ => unwarned_metricSteps _ _ _ _ _,
    unwarned_panelsSteps _ _ _⟩

/-- A report begins with the notes on its comparisons and warns of none of them later. -/
theorem exists_unwarned_steps (root : Path) (rows : List Observation) (metrics : List Metric)
    (baseline : String) (environments : Bool) : ∃ rest, Unwarned rest ∧
      steps root rows metrics baseline environments =
        comparisonNotes baseline (MetricComparison.all rows metrics baseline) ++ rest := by
  unfold steps mainSteps
  simp only [List.append_assoc]
  refine ⟨_, ?_, rfl⟩
  simp only [unwarned_append_iff]
  refine ⟨unwarned_flatMap fun _ _ => unwarned_valueSteps _ _ _, unwarned_panelsSteps _ _ _,
    unwarned_flatMap fun _ _ => unwarned_rankingSteps _, unwarned_overallSteps _, ?_⟩
  split
  · exact unwarned_flatMap fun _ _ => unwarned_environmentSteps _ _ _ _ _
  · simp [Unwarned]

theorem exists_unwarned_compare (rows : List Observation) (metrics : List Metric)
    (baseline : String) (output : Path) : ∃ rest, Unwarned rest ∧
      (compare rows metrics baseline output).1 =
        comparisonNotes baseline (MetricComparison.all rows metrics baseline) ++ rest := by
  unfold compare
  dsimp only
  split
  · exact ⟨[], by simp [Unwarned], by simp⟩
  next form _ =>
    refine ⟨_, ?_, rfl⟩
    cases form with
    | text =>
        unfold comparisonSteps
        dsimp only
        split <;> simp [Unwarned]
    | table => simp [Unwarned, comparisonSteps]
    | page => exact unwarned_append_iff.mpr ⟨unwarned_dashboardLog _, unwarned_write _ _⟩

/-- What is warned of is in the log of every run, also of one that is stopped. -/
theorem skippedNote_mem_run_iff (distinct : (metrics.map (·.key)).Nodup) (hm : m ∈ metrics)
    (t : Files.Tree Document) (root : Path) {rest : List Step} (unwarned : Unwarned rest) :
    skippedNote baseline m.key ∈ ((Progress.start t).run root
        (comparisonNotes baseline (MetricComparison.all rows metrics baseline) ++ rest)).log ↔
      ¬ Compared rows baseline m ∧ ∃ o ∈ rows, m.covers o = true := by
  rw [← skippedNote_mem_notes_iff distinct hm, Progress.run_append, comparisonNotes_eq,
    Progress.run_notes rfl]
  constructor
  · intro there
    obtain notes | later | ⟨path, written⟩ := Progress.mem_log_run there
    · exact notes
    · exact absurd later (unwarned _ _)
    · -- what is written is logged as well, but not as a warning
      exact absurd (congrArg Log.Entry.level written) (by simp [skippedNote, writtenNote])
  · intro there
    exact (Progress.log_prefix_run _ _ _).subset there

/-! ## Documents -/

section Documents

variable {step : Step} (root : Path) (environments : Bool)

theorem mem_steps_of_ranking (hm : m ∈ metrics)
    (h : step ∈ rankingSteps (MetricComparison.ofRows rows baseline m)) :
    step ∈ steps root rows metrics baseline environments := by
  have ranking : step ∈ (MetricComparison.all rows metrics baseline).flatMap rankingSteps :=
    List.mem_flatMap.mpr ⟨_, List.mem_map_of_mem hm, h⟩
  unfold steps mainSteps
  simp only [List.mem_append]
  exact .inl (.inl (.inr ranking))

theorem mem_steps_of_overall
    (h : step ∈ overallSteps (MetricComparison.all rows metrics baseline)) :
    step ∈ steps root rows metrics baseline environments := by
  unfold steps mainSteps
  simp only [List.mem_append]
  exact .inl (.inr h)

theorem overview_all (rows : List Observation) (metrics : List Metric) (baseline : String) :
    MetricComparison.overview (MetricComparison.all rows metrics baseline) =
      String.intercalate "\n" (metrics.map fun m =>
        Overview.block m.key (MetricComparison.ofRows rows baseline m).comparison) := by
  simp only [MetricComparison.overview, MetricComparison.all, Overview.blocks, List.map_map]
  rfl

/-- The documents that tell of the comparison of a metric: those of a report, two of which are about
all metrics, and the one that comparing leaves. -/
structure Documented (root : Path) (rows : List Observation) (metrics : List Metric)
    (baseline : String) (environments : Bool) (output : Path) (m : Metric) : Prop where
  overall : ∀ c, (MetricComparison.ofRows rows baseline m).comparison = some c →
    .write (overallPlace m.key) (.text (Tables.overall c)) ∈
      steps root rows metrics baseline environments
  summary : .write (summaryPlace m.key) (.page (summaryChart rows baseline m)) ∈
    steps root rows metrics baseline environments
  detailed : .write (detailedPlace m.key) (.page (detailedChart rows baseline m)) ∈
    steps root rows metrics baseline environments
  dashboard : .write dashboardPlace (.page (dashboardChart rows metrics baseline)) ∈
    steps root rows metrics baseline environments
  text : .write textPlace (.text (String.intercalate "\n" (metrics.map fun m =>
      Overview.block m.key (MetricComparison.ofRows rows baseline m).comparison))) ∈
    steps root rows metrics baseline environments
  output_text : OutputForm.ofPath? output = some .text →
    let text := String.intercalate "\n" (metrics.map fun m =>
      Overview.block m.key (MetricComparison.ofRows rows baseline m).comparison)
    (if OutputForm.isPrint output then .print text else .write [output] (.text text)) ∈
      (compare rows metrics baseline output).1
  output_table : OutputForm.ofPath? output = some .table →
    .write [output] (.text (Csv.table ("metric" :: Tables.overallHeader)
      (combinedRecords (MetricComparison.all rows metrics baseline)))) ∈
      (compare rows metrics baseline output).1
  output_page : OutputForm.ofPath? output = some .page →
    .write [output] (.page (dashboardChart rows metrics baseline)) ∈
      (compare rows metrics baseline output).1

theorem mem_compare {form : OutputForm} (supported : OutputForm.ofPath? output = some form)
    (h : outputStep (MetricComparison.all rows metrics baseline) output form = step) :
    step ∈ (compare rows metrics baseline output).1 := by
  obtain ⟨entries, steps⟩ := exists_compare_eq supported rows metrics baseline
  rw [steps, h]
  exact List.mem_append_right _ List.mem_cons_self

theorem documented (hm : m ∈ metrics) (output : Path) :
    Documented root rows metrics baseline environments output m where
  overall c hc := mem_steps_of_ranking root environments hm <| by
    unfold rankingSteps
    rw [hc]
    exact List.mem_append_left _ (List.mem_append_left _ List.mem_cons_self)
  summary := mem_steps_of_ranking root environments hm <| by
    simp [rankingSteps, chartSteps, summaryChart, MetricComparison.ofRows]
  detailed := mem_steps_of_ranking root environments hm <| by
    simp [rankingSteps, chartSteps, detailedChart, MetricComparison.ofRows]
  dashboard := mem_steps_of_overall root environments <| by
    simp [overallSteps, chartSteps, dashboardChart]
  text := mem_steps_of_overall root environments <| by
    simp [overallSteps, overview_all]
  output_text supported := mem_compare supported <| by
    rw [outputStep, outputDocument, overview_all]
  output_table supported := mem_compare supported <| by
    rw [outputStep, if_neg (not_isPrint supported (by decide)), outputDocument, table_eq]
  output_page supported := mem_compare supported (if_neg (not_isPrint supported (by decide)))

end Documents

/-! ## All outputs agree -/

/-- Every output shows a metric with its ranking if it is compared, and otherwise without. -/
structure ShownAlike (root : Path) (rows : List Observation) (metrics : List Metric)
    (baseline : String) (environments : Bool) (m : Metric) : Prop where
  comparison : (MetricComparison.ofRows rows baseline m).comparison.isSome ↔
    Compared rows baseline m
  /-- The table of its ranking. -/
  overall : overallPlace m.key ∈ Step.written (steps root rows metrics baseline environments) ↔
    Compared rows baseline m
  /-- The table of all rankings, in which it has a record for every row of its own one. -/
  records : (∃ record ∈ combinedRecords (MetricComparison.all rows metrics baseline),
    record.head? = some m.key) ↔ Compared rows baseline m
  recorded : (combinedRecords (MetricComparison.all rows metrics baseline)).filter
      (fun record => record.head? = some m.key) =
    (MetricComparison.ofRows rows baseline m).comparison.toList.flatMap (keyedRecords m.key)
  /-- The text, which lists its ranking or says that there is no result. -/
  block : Overview.block m.key (MetricComparison.ofRows rows baseline m).comparison =
    Overview.noResult m.key ↔ ¬ Compared rows baseline m
  lists : ∀ c, (MetricComparison.ofRows rows baseline m).comparison = some c →
    Overview.Lists m.key baseline c
  /-- The charts of its own. -/
  summary : summaryChart rows baseline m = Chart.placeholder m.key ↔ ¬ Compared rows baseline m
  detailed : detailedChart rows baseline m = Chart.placeholder m.key ↔ ¬ Compared rows baseline m
  /-- The chart of all metrics, of which only the first ones are shown. -/
  bars : ∀ i < Chart.maxPlots, metrics[i]? = some m →
    ((∃ bars, (dashboardChart rows metrics baseline).traces[i]? =
      some (i, .bars (some m.key) bars)) ↔ Compared rows baseline m)
  named : ∀ c, (MetricComparison.ofRows rows baseline m).comparison = some c →
    ∀ i < Chart.maxPlots, metrics[i]? = some m → ∃ bars,
      (dashboardChart rows metrics baseline).traces[i]? = some (i, .bars (some m.key) bars) ∧
      (bars.map (·.exe)).Perm (c.ranking.map (·.exe))
  remark : ∀ i < Chart.maxPlots, metrics[i]? = some m →
    ((dashboardChart rows metrics baseline).traces[i]? =
      some (i, .remark (m.key ++ ": (no data)")) ↔ ¬ Compared rows baseline m)

theorem exists_record_iff (distinct : (metrics.map (·.key)).Nodup) (hm : m ∈ metrics) :
    (∃ record ∈ combinedRecords (MetricComparison.all rows metrics baseline),
      record.head? = some m.key) ↔ Compared rows baseline m := by
  have kept : (∃ record ∈ combinedRecords (MetricComparison.all rows metrics baseline),
        record.head? = some m.key) ↔
      (combinedRecords (MetricComparison.all rows metrics baseline)).filter
        (fun record => record.head? = some m.key) ≠ [] := by
    simp [List.filter_eq_nil_iff]
  rw [kept, filter_combinedRecords distinct hm, ← isSome_comparison_iff]
  cases hc : (MetricComparison.ofRows rows baseline m).comparison with
  | none => simp
  | some c =>
      have ranked : c.ranking ≠ [] := Overview.ranking_ne_nil_of_ofMeans hc
      simp [keyedRecords, ranked]

theorem shownAlike (distinct : (metrics.map (·.key)).Nodup)
    (single : ∀ o ∈ rows, Text.OneLine o.exe) (hm : m ∈ metrics) (root : Path)
    (environments : Bool) : ShownAlike root rows metrics baseline environments m := by
  have ranked_single {c : Comparison}
      (hc : (MetricComparison.ofRows rows baseline m).comparison = some c) :
      ∀ r ∈ c.ranking, Text.OneLine r.exe := by
    intro r hr
    obtain ⟨o, ho, same⟩ := Comparison.exists_of_mem_ranking hc hr
    exact same ▸ single o (Metric.mem_select.mp ho).1
  refine ⟨isSome_comparison_iff, overallPlace_mem_iff distinct hm root environments,
    exists_record_iff distinct hm, filter_combinedRecords distinct hm, ?_,
    fun c hc => Overview.lists_of_ofMeans m.key hc (ranked_single hc),
    summaryChart_eq_placeholder_iff, detailedChart_eq_placeholder_iff, fun i first here => ?_,
    fun c hc i first here => ?_, fun i first here => ?_⟩
  · rw [← isSome_comparison_iff]
    cases hc : (MetricComparison.ofRows rows baseline m).comparison with
    | none => simp [Overview.block_none]
    | some c => simp [Overview.block_ne_noResult hc (ranked_single hc)]
  · rw [traces_dashboardChart first here, ← isSome_comparison_iff]
    cases (MetricComparison.ofRows rows baseline m).comparison <;> simp [Chart.dashboardTrace]
  · rw [traces_dashboardChart first here, hc]
    exact ⟨_, rfl, map_exe_geoMeanBars c⟩
  · rw [traces_dashboardChart first here, ← isSome_comparison_iff]
    cases (MetricComparison.ofRows rows baseline m).comparison <;> simp [Chart.dashboardTrace]

/-- A metric that is not compared is warned of if it is observed at all. -/
structure WarnedAlike (t : Files.Tree Document) (root : Path) (rows : List Observation)
    (metrics : List Metric) (baseline : String) (environments : Bool) (output : Path)
    (m : Metric) : Prop where
  report : skippedNote baseline m.key ∈
      ((Progress.start t).run root (steps root rows metrics baseline environments)).log ↔
    ¬ Compared rows baseline m ∧ ∃ o ∈ rows, m.covers o = true
  compare : skippedNote baseline m.key ∈
      ((Progress.start t).run root (compare rows metrics baseline output).1).log ↔
    ¬ Compared rows baseline m ∧ ∃ o ∈ rows, m.covers o = true

theorem warnedAlike (distinct : (metrics.map (·.key)).Nodup) (hm : m ∈ metrics)
    (t : Files.Tree Document) (root : Path) (environments : Bool) (output : Path) :
    WarnedAlike t root rows metrics baseline environments output m := by
  obtain ⟨report, unwarned, steps⟩ := exists_unwarned_steps root rows metrics baseline environments
  obtain ⟨shown, unwarned', compared⟩ := exists_unwarned_compare rows metrics baseline output
  constructor
  · rw [steps]
    exact skippedNote_mem_run_iff distinct hm t root unwarned
  · rw [compared]
    exact skippedNote_mem_run_iff distinct hm t root unwarned'

/-- That metrics are not compared, even all of them, is not in the way of anything. -/
structure NeverStopped (t : Files.Tree Document) (root : Path) (rows : List Observation)
    (metrics : List Metric) (baseline : String) (environments : Bool) (output : Path) : Prop where
  /-- In a supported form a comparison is printed, or it is written if anything at all can be. -/
  compare : ∀ form, OutputForm.ofPath? output = some form →
    (compare rows metrics baseline output).2 = none ∧
    ∀ document, ((Progress.start t).run root (compare rows metrics baseline output).1).failure =
      if OutputForm.isPrint output then none
      else (writeDocument t (Path.below root [output]) document).failure
  /-- Where a report is written in which more metrics are compared, this one is written as well. -/
  report : Tree.Whole t → ∀ rows' baseline', rows ⊆ rows' →
    (∀ m ∈ metrics, Compared rows baseline m → Compared rows' baseline' m) →
    ((Progress.start t).run root (steps root rows' metrics baseline' environments)).failure = none →
    ((Progress.start t).run root (steps root rows metrics baseline environments)).failure = none
  /-- In an empty folder every report with short and plain names is written. -/
  ground : ∀ base, root = Path.ofNames base → Ground t base → (∀ m ∈ metrics, Plain m.key) →
    (∀ o ∈ rows, Modest (fileStem o.bench)) →
    (environments = true → ∀ o ∈ rows, Housed o.envid) →
    ((Progress.start t).run root (steps root rows metrics baseline environments)).failure = none

theorem neverStopped (t : Files.Tree Document) (root : Path) (rows : List Observation)
    (metrics : List Metric) (baseline : String) (environments : Bool) (output : Path) :
    NeverStopped t root rows metrics baseline environments output where
  compare form supported :=
    ⟨(failure_compare_eq supported t root rows metrics baseline (.text "")).1, fun document =>
      (failure_compare_eq supported t root rows metrics baseline document).2⟩
  report whole rows' baseline' fewer compared done := by
    simp only [← isSome_comparison_iff] at compared
    exact failure_steps_of_fewer whole fewer compared environments done
  ground base root_eq ground plain modest housed := by
    subst root_eq
    exact failure_steps_eq_none ground rows metrics baseline environments plain modest housed

/-- All outputs agree on which metrics are compared: those in which the baseline has a value. The
others are warned of, as far as they are observed, and stop nothing. -/
theorem outputs_agree (t : Files.Tree Document) (root : Path) (rows : List Observation)
    (metrics : List Metric) (baseline : String) (environments : Bool) (output : Path)
    (distinct : (metrics.map (·.key)).Nodup) (single : ∀ o ∈ rows, Text.OneLine o.exe) :
    (∀ m ∈ metrics, Documented root rows metrics baseline environments output m ∧
      ShownAlike root rows metrics baseline environments m ∧
      WarnedAlike t root rows metrics baseline environments output m) ∧
    NeverStopped t root rows metrics baseline environments output := by
  refine ⟨fun m hm => ⟨documented root environments hm output, ?_, ?_⟩, ?_⟩
  · exact shownAlike distinct single hm root environments
  · exact warnedAlike distinct hm t root environments output
  · exact neverStopped t root rows metrics baseline environments output

/-- A metric that is compared and one that only other executables were measured in: the report is
written, with a table of the first ranking and a warning about the second. -/
theorem outputs_agree_two :
    let rows : List Observation :=
      [⟨"b", "X", "s", "c", "u", "1", some 1, none, none, none⟩,
        ⟨"b", "Y", "s", "d", "u", "1", some 1, none, none, none⟩]
    let compared : Metric := ⟨"t", "c", "u", "", "", 0⟩
    let skipped : Metric := ⟨"g", "d", "u", "", "", 0⟩
    let report := steps "o" rows [compared, skipped] "X" true
    ([compared, skipped].map (·.key)).Nodup ∧ (∀ o ∈ rows, Text.OneLine o.exe) ∧
    ((Progress.start (Tree.bare [])).run "o" report).failure = none ∧
    overallPlace "t" ∈ Step.written report ∧
    skippedNote "X" "t" ∉ ((Progress.start (Tree.bare [])).run "o" report).log ∧
    overallPlace "g" ∉ Step.written report ∧
    skippedNote "X" "g" ∈ ((Progress.start (Tree.bare [])).run "o" report).log := by
  intro rows compared skipped report
  have distinct : ([compared, skipped].map (·.key)).Nodup := by decide
  have single : ∀ o ∈ rows, Text.OneLine o.exe := by decide
  have there : Compared rows "X" compared := by decide
  have missing : ¬ Compared rows "X" skipped := by decide
  have observed : ∃ o ∈ rows, skipped.covers o = true := by decide
  obtain ⟨agree, unstopped⟩ := outputs_agree (Tree.bare []) "o" rows [compared, skipped] "X" true
    "out.csv" distinct single
  obtain ⟨-, shown, warned⟩ := agree compared List.mem_cons_self
  obtain ⟨-, shown', warned'⟩ := agree skipped (List.mem_cons_of_mem _ List.mem_cons_self)
  have done := unstopped.ground ["o"] rfl (Plain.ground (by decide)) (by decide) (by decide)
    fun _ o ho => .inr ((by decide : ∀ o ∈ rows, Plain (fileStem o.envid)) o ho)
  exact ⟨distinct, single, done, shown.overall.mpr there,
    fun warning => (warned.report.mp warning).1 there, mt shown'.overall.mp missing,
    warned'.report.mpr ⟨missing, observed⟩⟩

end Speedup.Report
