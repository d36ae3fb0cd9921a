import Speedup.Proofs.Files.Writing
import Speedup.Proofs.Grouping
import Speedup.Report

/-!
# The documents of a report

A report is a list of steps, most of which are notes. What is left without them is the list of its
documents (`items`), each known by what it shows and, for what is repeated below `envs`, by an
environment. Which documents there are depends on where values are: a benchmark with a value in a
metric has both a box plot and a table (`written_metricSteps`), one with a value in any metric has a
panel (`written_panelsSteps`).
-/

namespace Speedup

open Ordered

variable {rows : List Observation}

/-! ## Charts of values -/

theorem ExeSummary.ofRows_ne_nil_iff {baseline : String} :
    ExeSummary.ofRows baseline rows ≠ [] ↔ ∃ o ∈ rows, o.value.isSome := by
  rw [← Grouping.isEmpty_stats_eq_false_iff (·.exe)]
  unfold ExeSummary.ofRows Table.isEmpty
  rw [← List.length_pos_iff, List.length_mergeSort, List.length_map, List.length_pos_iff,
    List.isEmpty_eq_false_iff]

namespace Chart

theorem isSome_box?_iff {metric : Metric} {bench : String} {baseline : Option String} :
    (box? metric bench rows baseline).isSome ↔ ∃ o ∈ rows, o.value.isSome := by
  have ranged : (Stats.ofValues (rows.filterMap (·.value))).isSome ↔
      ∃ o ∈ rows, o.value.isSome := by
    rw [Sample.isSome_ofValues_iff]
    simp [Option.isSome_iff_ne_none]
  have ranked : ExeSummary.ofRows (baseline.getD "") rows ≠ [] ↔ ∃ o ∈ rows, o.value.isSome :=
    ExeSummary.ofRows_ne_nil_iff
  unfold box?
  rw [← ranged] at ranked ⊢
  cases hr : Stats.ofValues (rows.filterMap (·.value)) with
  | none => simp
  | some range =>
      obtain ⟨best, rest, hs⟩ := List.exists_cons_of_ne_nil (ranked.mpr (by rw [hr]; rfl))
      simp [hs]

theorem isSome_panel?_iff {bench : String} {slices : List Slice} :
    (panel? bench slices).isSome ↔ ∃ s ∈ slices, ∃ o ∈ s.2, o.value.isSome := by
  have shown : shownSlices slices ≠ [] ↔ ∃ s ∈ slices, ∃ o ∈ s.2, o.value.isSome := by
    simp [shownSlices, Option.isSome_iff_ne_none]
  rw [← shown]
  unfold panel?
  cases hs : shownSlices slices with
  | nil => simp [orderSlice?]
  | cons first rest =>
      have ordered : (orderSlice? ((first :: rest).take maxPlots)).isSome := by
        simp [orderSlice?, maxPlots]
      obtain ⟨ordering, ho⟩ := Option.isSome_iff_exists.mp ordered
      simp [ho]

theorem isSome_pivot?_iff (metric : Metric) :
    (pivot? metric (Pivot.ofRows rows)).isSome ↔ ∃ o ∈ rows, o.value.isSome := by
  have cells : (Pivot.ofRows rows).isEmpty = false ↔ ∃ o ∈ rows, o.value.isSome := by
    rw [← Grouping.isEmpty_stats_eq_false_iff Grouping.cell]
    unfold Pivot.isEmpty Pivot.ofRows Table.isEmpty Table.map
    rw [List.isEmpty_map]
  rw [← cells]
  unfold pivot?
  split <;> simp_all

end Chart

namespace Report

/-- The benchmarks that have a value, in order. -/
def measured (rows : List Observation) : List String := (Grouping.values (·.bench) rows).keys

theorem mem_measured_iff {bench : String} :
    bench ∈ measured rows ↔ ∃ o ∈ rows, o.bench = bench ∧ o.value.isSome :=
  Grouping.mem_keys_values_iff.trans Grouping.valuesAt_ne_nil_iff

theorem filter_benches {p : String → Bool}
    (h : ∀ bench, p bench = true ↔ ∃ o ∈ rows, o.bench = bench ∧ o.value.isSome) :
    (Grouping.benches rows).filter p = measured rows := by
  refine Ascending.eq_of_mem_iff ?_ (Grouping.values (·.bench) rows).ascending ?_
  · exact (ascending_distinct _).sublist List.filter_sublist
  · intro bench
    rw [List.mem_filter, h, ← mem_measured_iff, Grouping.mem_benches_iff]
    refine ⟨And.right, fun there => ⟨?_, there⟩⟩
    obtain ⟨o, ho, rfl, _⟩ := mem_measured_iff.mp there
    exact ⟨o, ho, rfl⟩

/-! ## Documents -/

/-- What a document shows. -/
inductive Part where
  | box (key bench : String)
  | table (key bench : String)
  | master (key : String)
  | panel (bench : String)
  | pivot (key : String)
  | overall (key : String)
  | summary (key : String)
  | detailed (key : String)
  | dashboard
  | text
  deriving DecidableEq, Repr

def Part.place : Part → List Path
  | box key bench => boxPlace key bench
  | table key bench => benchPlace key bench
  | master key => masterPlace key
  | panel bench => panelPlace bench
  | pivot key => pivotPlace key
  | overall key => overallPlace key
  | summary key => summaryPlace key
  | detailed key => detailedPlace key
  | dashboard => dashboardPlace
  | text => textPlace

/-- A document of a report. -/
structure Item where
  environment : Option String
  part : Part
  deriving DecidableEq, Repr

/-- The folder of what is limited to an environment. -/
def scope (environment : Option String) : List Path := (environment.map environmentPlace).getD []

/-- The path of a document, seen from the folder of the report. -/
def Item.within (item : Item) : List Path := scope item.environment ++ item.part.place

def metricParts (key : String) (rows : List Observation) : List Part :=
  if rows.isEmpty then []
  else (measured rows).map (.box key) ++ (measured rows).map (.table key) ++ [.master key]

def panelParts (metrics : List Metric) (rows : List Observation) : List Part :=
  (measured (metrics.flatMap fun m => m.select rows)).map .panel

def environmentParts (metrics : List Metric) (rows : List Observation) : List Part :=
  metrics.flatMap (fun m => metricParts m.key (m.select rows)) ++ panelParts metrics rows

def pivotParts (metric : Metric) (rows : List Observation) : List Part :=
  if (Chart.pivot? metric (Pivot.ofRows rows)).isSome then [.pivot metric.key] else []

/-- The rankings of a metric; there is a table of them if it can be compared. -/
def rankingParts (baseline key : String) (rows : List Observation) : List Part :=
  (if (Comparison.ofRows rows baseline).isSome then [.overall key] else []) ++
    [.summary key, .detailed key]

def mainParts (rows : List Observation) (metrics : List Metric) (baseline : String) : List Part :=
  metrics.flatMap (fun m => metricParts m.key (m.select rows) ++ pivotParts m (m.select rows)) ++
    panelParts metrics rows ++
    metrics.flatMap (fun m => rankingParts baseline m.key (m.select rows)) ++ [.dashboard, .text]

/-- The documents of a report. -/
def items (rows : List Observation) (metrics : List Metric) (baseline : String)
    (environments : Bool) : List Item :=
  (mainParts rows metrics baseline).map (.mk none) ++
    if environments then
      (Grouping.environments rows).flatMap fun envid =>
        (environmentParts metrics (Observation.ofEnvironment envid rows)).map (.mk (some envid))
    else []

/-! ## What there is -/

variable {metric : Metric} {metrics : List Metric} {baseline : String} {part : Part}

/-- Whether a benchmark has a value in a metric of the report. -/
def Reported (rows : List Observation) (metrics : List Metric) (bench : String) : Prop :=
  ∃ m ∈ metrics, ∃ o ∈ m.select rows, o.bench = bench ∧ o.value.isSome

theorem reported_of_measured {m : Metric} (hm : m ∈ metrics) {bench : String}
    (h : bench ∈ measured (m.select rows)) : Reported rows metrics bench :=
  ⟨m, hm, mem_measured_iff.mp h⟩

theorem reported_iff {bench : String} :
    Reported rows metrics bench ↔ bench ∈ measured (metrics.flatMap fun m => m.select rows) := by
  rw [mem_measured_iff]
  simp only [Reported, List.mem_flatMap]
  constructor
  · rintro ⟨m, hm, o, ho, hb⟩
    exact ⟨o, ⟨m, hm, ho⟩, hb⟩
  · rintro ⟨o, ⟨m, hm, ho⟩, hb⟩
    exact ⟨m, hm, o, ho, hb⟩

theorem mem_metricParts_iff {key : String} : part ∈ metricParts key rows ↔ rows ≠ [] ∧
    ((∃ bench ∈ measured rows, part = .box key bench ∨ part = .table key bench) ∨
      part = .master key) := by
  unfold metricParts
  split
  next nothing => simp_all
  next something =>
    rw [List.isEmpty_iff] at something
    simp only [List.mem_append, List.mem_map, List.mem_singleton, ne_eq, something,
      not_false_eq_true, true_and, eq_comm (b := part)]
    refine or_congr_left ?_
    constructor
    · rintro (⟨bench, hb, rfl⟩ | ⟨bench, hb, rfl⟩)
      · exact ⟨bench, hb, .inl rfl⟩
      · exact ⟨bench, hb, .inr rfl⟩
    · rintro ⟨bench, hb, rfl | rfl⟩
      · exact .inl ⟨bench, hb, rfl⟩
      · exact .inr ⟨bench, hb, rfl⟩

theorem mem_pivotParts_iff :
    part ∈ pivotParts metric rows ↔ part = .pivot metric.key ∧ ∃ o ∈ rows, o.value.isSome := by
  rw [pivotParts, ← Chart.isSome_pivot?_iff metric]
  split <;> simp_all

theorem mem_rankingParts_iff {key : String} : part ∈ rankingParts baseline key rows ↔
    (part = .overall key ∧ (Comparison.ofRows rows baseline).isSome) ∨
      part = .summary key ∨ part = .detailed key := by
  unfold rankingParts
  split <;> simp_all

theorem mem_panelParts_iff : part ∈ panelParts metrics rows ↔
    ∃ bench, Reported rows metrics bench ∧ part = .panel bench := by
  simp only [panelParts, List.mem_map, reported_iff, eq_comm (b := part)]

theorem mem_items_iff {item : Item} {environments : Bool} :
    item ∈ items rows metrics baseline environments ↔
      (item.environment = none ∧ item.part ∈ mainParts rows metrics baseline) ∨
      (environments = true ∧ ∃ envid ∈ Grouping.environments rows, item.environment = some envid ∧
        item.part ∈ environmentParts metrics (Observation.ofEnvironment envid rows)) := by
  obtain ⟨environment, part⟩ := item
  unfold items
  rw [List.mem_append]
  refine or_congr ?_ ?_
  · simp [and_comm, eq_comm]
  · cases environments
    · simp
    · simp [and_comm, eq_comm]

/-! ## The documents that are written -/

variable {root : Path} {within : List Path}

theorem written_boxSteps {bench : String} :
    Step.written (boxSteps within metric rows baseline bench) =
      if (Chart.box? metric bench (Observation.ofBench bench rows) (some baseline)).isSome then
        [within ++ boxPlace metric.key bench] else [] := by
  unfold boxSteps
  split
  next chart found => simp [found, Step.written, Step.written?]
  next missing => simp [missing, Step.written, Step.written?]

theorem written_benchSteps {place : List Path} {bench : String} :
    Step.written (benchSteps place rows baseline bench) = [place] := by
  unfold benchSteps
  rw [Step.written_append, Step.written_map_eq_nil fun _ => rfl]
  rfl

def paths (within : List Path) (parts : List Part) : List (List Path) :=
  parts.map fun part => within ++ part.place

@[simp] theorem paths_append (xs ys : List Part) :
    paths within (xs ++ ys) = paths within xs ++ paths within ys := List.map_append

@[simp] theorem paths_flatMap {β : Type} (f : β → List Part) (xs : List β) :
    paths within (xs.flatMap f) = xs.flatMap fun x => paths within (f x) := List.map_flatMap

theorem flatMap_ite_singleton {β γ : Type} (p : β → Bool) (f : β → γ) (xs : List β) :
    (xs.flatMap fun x => if p x then [f x] else []) = (xs.filter p).map f := by
  induction xs with
  | nil => rfl
  | cons x rest ih =>
      rw [List.flatMap_cons, ih]
      by_cases h : p x <;> simp [h]

theorem isSome_box?_ofBench_iff (bench : String) :
    (Chart.box? metric bench (Observation.ofBench bench rows) (some baseline)).isSome ↔
      ∃ o ∈ rows, o.bench = bench ∧ o.value.isSome := by
  rw [Chart.isSome_box?_iff]
  simp only [Observation.mem_ofBench, and_assoc]

theorem written_metricSteps : Step.written (metricSteps root within metric rows baseline) =
    paths within (metricParts metric.key rows) := by
  unfold metricSteps metricParts
  split
  · rfl
  · have boxes : (Grouping.benches rows).flatMap
        (fun bench => Step.written (boxSteps within metric rows baseline bench)) =
        paths within ((measured rows).map (.box metric.key)) := by
      simp only [written_boxSteps]
      rw [flatMap_ite_singleton, filter_benches isSome_box?_ofBench_iff, paths, List.map_map]
      rfl
    have tables : Step.written
        (benchTables (fun bench => within ++ benchPlace metric.key bench) rows baseline) =
        paths within ((measured rows).map (.table metric.key)) := by
      unfold benchTables paths
      simp only [Step.written_flatMap, written_benchSteps]
      rw [← List.map_eq_flatMap, List.map_map]
      rfl
    rw [Step.written_append, Step.written_append, Step.written_flatMap, boxes, tables,
      paths_append, paths_append]
    rfl

theorem written_panelSteps {slices : List Chart.Slice} {bench : String} :
    Step.written (panelSteps within slices bench) =
      if (Chart.panel? bench (slices.map fun (m, rows) =>
          (m, Observation.ofBench bench rows))).isSome then
        [within ++ panelPlace bench] else [] := by
  unfold panelSteps
  dsimp only
  rw [Step.written_append, Step.written_map_eq_nil fun _ => rfl, List.nil_append]
  split
  next found =>
    obtain ⟨chart, hc⟩ := Option.isSome_iff_exists.mp found
    rw [hc]
    rfl
  next missing =>
    rw [Option.not_isSome_iff_eq_none.mp missing]
    rfl

theorem isSome_panel?_ofBench_iff {slices : List Chart.Slice} (bench : String) :
    (Chart.panel? bench (slices.map fun (m, rows) =>
        (m, Observation.ofBench bench rows))).isSome ↔
      ∃ o ∈ slices.flatMap (·.2), o.bench = bench ∧ o.value.isSome := by
  rw [Chart.isSome_panel?_iff]
  simp only [List.mem_map, exists_exists_and_eq_and, Observation.mem_ofBench, List.mem_flatMap]
  constructor
  · rintro ⟨s, hs, o, ⟨ho, hb⟩, hv⟩
    exact ⟨o, ⟨s, hs, ho⟩, hb, hv⟩
  · rintro ⟨o, ⟨s, hs, ho⟩, hb, hv⟩
    exact ⟨s, hs, o, ⟨ho, hb⟩, hv⟩

theorem written_panelsSteps : Step.written (panelsSteps within metrics rows) =
    paths within (panelParts metrics rows) := by
  unfold panelsSteps panelParts
  dsimp only
  simp only [Step.written_flatMap, written_panelSteps]
  rw [flatMap_ite_singleton, filter_benches isSome_panel?_ofBench_iff, List.flatMap_map, paths,
    List.map_map]
  rfl

/-- What is repeated for environments, of some rows and below a folder. -/
def scopeSteps (root : Path) (within : List Path) (rows : List Observation)
    (metrics : List Metric) (baseline : String) : List Step :=
  metrics.flatMap (fun m => metricSteps root within m (m.select rows) baseline) ++
    panelsSteps within metrics rows

theorem written_scopeSteps : Step.written (scopeSteps root within rows metrics baseline) =
    paths within (environmentParts metrics rows) := by
  unfold scopeSteps environmentParts
  simp only [Step.written_append, Step.written_flatMap, written_metricSteps, written_panelsSteps,
    paths_append, paths_flatMap]

theorem written_environmentSteps {envid : String} :
    Step.written (environmentSteps root rows metrics baseline envid) =
      paths (environmentPlace envid)
        (environmentParts metrics (Observation.ofEnvironment envid rows)) :=
  written_scopeSteps

theorem written_valueSteps {m : MetricComparison} :
    Step.written (valueSteps root baseline m) =
      paths [] (metricParts m.metric.key m.rows ++ pivotParts m.metric m.rows) := by
  unfold valueSteps pivotParts
  rw [Step.written_append, written_metricSteps, paths_append]
  cases Chart.pivot? m.metric (Pivot.ofRows m.rows) <;> rfl

theorem written_rankingSteps {m : MetricComparison}
    (h : m.comparison = Comparison.ofRows m.rows baseline) :
    Step.written (rankingSteps m) = paths [] (rankingParts baseline m.metric.key m.rows) := by
  unfold rankingSteps rankingParts
  rw [← h]
  cases m.comparison <;> rfl

theorem written_overallSteps (all : List MetricComparison) :
    Step.written (overallSteps all) = paths [] [.dashboard, .text] := by
  unfold overallSteps
  dsimp only
  rw [Step.written_append, Step.written_append, Step.written_map_eq_nil fun _ => rfl]
  rfl

theorem written_mainSteps : Step.written (mainSteps root rows metrics baseline) =
    paths [] (mainParts rows metrics baseline) := by
  have notes (all : List MetricComparison) :
      Step.written (comparisonNotes baseline all) = [] := by
    unfold comparisonNotes
    simp [Step.written_map_eq_nil (f := Step.note) fun _ => rfl]
  have rankings (m : Metric) :
      Step.written (rankingSteps (MetricComparison.ofRows rows baseline m)) =
        paths [] (rankingParts baseline m.key (m.select rows)) := written_rankingSteps rfl
  unfold mainSteps mainParts MetricComparison.all
  simp only [Step.written_append, Step.written_flatMap, notes, written_valueSteps,
    written_panelsSteps, written_overallSteps, paths_append, paths_flatMap, List.flatMap_map,
    rankings, List.nil_append]
  rfl

/-- The documents that a report writes are its items, in this order. -/
theorem written_steps (root : Path) (rows : List Observation) (metrics : List Metric)
    (baseline : String) (environments : Bool) :
    Step.written (steps root rows metrics baseline environments) =
      (items rows metrics baseline environments).map Item.within := by
  unfold steps items
  rw [Step.written_append, written_mainSteps, List.map_append, List.map_map]
  refine congrArg₂ (· ++ ·) rfl ?_
  split
  · rw [Step.written_flatMap, List.map_flatMap]
    refine List.flatMap_congr fun envid _ => ?_
    rw [written_environmentSteps, List.map_map]
    rfl
  · rfl

end Report

end Speedup
