import Speedup.Proofs.Comparison.Observed
import Speedup.Proofs.Report.Success

/-!
# The files of a report

Which files a report leaves in a folder that held none, told by where observations have values
(`ReportFile`): a benchmark has files for a metric as soon as it has one value in it, a metric has
its table of all benchmarks as soon as it is observed, values or not, and charts over all benchmarks
are there in any case. The steps decide this in several places, each of which asks for something
else: for rows, groups, medians, charts or a comparison. That all of these agree with the listing,
so that nothing is missing and nothing is there besides, is `isSome_fileAt?_steps_iff`.

Names may meet. Where they do one file takes the place of another, but the files that are there are
still the listed ones.
-/

namespace Speedup.Report

open Files
open Tables (fileStem)

variable {t : Files.Tree Document} {root : Path} {rows : List Observation} {metrics : List Metric}
  {baseline : String} {environments : Bool} {names : List String} {part : Part}

/-! ## The listing -/

/-- A benchmark has a value in a metric. -/
def HasValue (rows : List Observation) (m : Metric) (bench : String) : Prop :=
  ∃ o ∈ rows, m.covers o = true ∧ o.bench = bench ∧ o.value.isSome = true

/-- The files below the folder of a report that are repeated for every environment. -/
inductive ScopeFile (rows : List Observation) (metrics : List Metric) : List String → Prop
  | box {m : Metric} {bench : String} (metric : m ∈ metrics) (value : HasValue rows m bench) :
      ScopeFile rows metrics [m.key, fileStem bench ++ ".html"]
  | table {m : Metric} {bench : String} (metric : m ∈ metrics) (value : HasValue rows m bench) :
      ScopeFile rows metrics ["summaries", m.key, fileStem bench ++ ".csv"]
  | master {m : Metric} (metric : m ∈ metrics) (observed : ∃ o ∈ rows, m.covers o = true) :
      ScopeFile rows metrics ["summaries", "MASTER_" ++ m.key ++ ".csv"]
  | panel {m : Metric} {bench : String} (metric : m ∈ metrics) (value : HasValue rows m bench) :
      ScopeFile rows metrics ["panels", fileStem bench ++ ".html"]

/-- The files below the folder of a report. -/
inductive ReportFile (rows : List Observation) (metrics : List Metric) (baseline : String)
    (environments : Bool) : List String → Prop
  | scope {names : List String} (file : ScopeFile rows metrics names) :
      ReportFile rows metrics baseline environments names
  | pivot {m : Metric} (metric : m ∈ metrics)
      (value : ∃ o ∈ rows, m.covers o = true ∧ o.value.isSome = true) :
      ReportFile rows metrics baseline environments ["pivots", m.key ++ ".html"]
  | overall {m : Metric} (metric : m ∈ metrics)
      (value : ∃ o ∈ rows, m.covers o = true ∧ o.exe = baseline ∧ o.value.isSome = true) :
      ReportFile rows metrics baseline environments
        ["summaries", "OVERALL_" ++ m.key ++ ".csv"]
  | summary {m : Metric} (metric : m ∈ metrics) :
      ReportFile rows metrics baseline environments ["summary_" ++ m.key ++ ".html"]
  | detailed {m : Metric} (metric : m ∈ metrics) :
      ReportFile rows metrics baseline environments ["summary_" ++ m.key ++ "_detailed" ++ ".html"]
  | dashboard : ReportFile rows metrics baseline environments ["summary_dashboard.html"]
  | text : ReportFile rows metrics baseline environments ["summary.txt"]
  | environment {o : Observation} {names : List String} (repeated : environments = true)
      (observed : o ∈ rows)
      (file : ScopeFile (Observation.ofEnvironment o.envid rows) metrics names) :
      ReportFile rows metrics baseline environments ("envs" :: fileStem o.envid :: names)

/-! ## The documents behind it -/

theorem mem_environmentParts_iff : part ∈ environmentParts metrics rows ↔
    (∃ m ∈ metrics, part ∈ metricParts m.key (m.select rows)) ∨ part ∈ panelParts metrics rows := by
  rw [environmentParts, List.mem_append, List.mem_flatMap]

theorem mem_mainParts_iff : part ∈ mainParts rows metrics baseline ↔
    part ∈ environmentParts metrics rows ∨
    (∃ m ∈ metrics, part ∈ pivotParts m (m.select rows)) ∨
    (∃ m ∈ metrics, part ∈ rankingParts baseline m.key (m.select rows)) ∨
    part = .dashboard ∨ part = .text := by
  rw [mem_environmentParts_iff]
  simp only [mainParts, List.mem_append, List.mem_flatMap, List.mem_cons, List.not_mem_nil,
    or_false, and_or_left, exists_or]
  constructor
  · rintro ((((values | pivot) | panel) | ranking) | overall)
    · exact .inl (.inl values)
    · exact .inr (.inl pivot)
    · exact .inl (.inr panel)
    · exact .inr (.inr (.inl ranking))
    · exact .inr (.inr (.inr overall))
  · rintro ((values | panel) | pivot | ranking | overall)
    · exact .inl (.inl (.inl (.inl values)))
    · exact .inl (.inl (.inr panel))
    · exact .inl (.inl (.inl (.inr pivot)))
    · exact .inl (.inr ranking)
    · exact .inr overall

theorem HasValue.observed {m : Metric} {bench : String} (h : HasValue rows m bench) :
    ∃ o ∈ rows, m.covers o = true := by
  obtain ⟨o, ho, covers, _⟩ := h
  exact ⟨o, ho, covers⟩

theorem hasValue_iff {m : Metric} {bench : String} :
    HasValue rows m bench ↔ bench ∈ measured (m.select rows) := by
  rw [mem_measured_iff]
  simp only [HasValue, Metric.mem_select, and_assoc]

theorem select_ne_nil_iff {m : Metric} :
    m.select rows ≠ [] ↔ ∃ o ∈ rows, m.covers o = true := by
  rw [Metric.select, ne_eq, List.filter_eq_nil_iff]
  simp

theorem reported_iff_exists_hasValue {bench : String} :
    Reported rows metrics bench ↔ ∃ m ∈ metrics, HasValue rows m bench := by
  simp only [hasValue_iff, mem_measured_iff, Reported]

theorem HasValue.box_mem {m : Metric} {bench : String} (metric : m ∈ metrics)
    (value : HasValue rows m bench) : Part.box m.key bench ∈ environmentParts metrics rows :=
  mem_environmentParts_iff.mpr (.inl ⟨m, metric, mem_metricParts_iff.mpr
    ⟨select_ne_nil_iff.mpr value.observed, .inl ⟨bench, hasValue_iff.mp value, .inl rfl⟩⟩⟩)

theorem HasValue.panel_mem {m : Metric} {bench : String} (metric : m ∈ metrics)
    (value : HasValue rows m bench) : Part.panel bench ∈ environmentParts metrics rows :=
  mem_environmentParts_iff.mpr (.inr (mem_panelParts_iff.mpr
    ⟨bench, reported_iff_exists_hasValue.mpr ⟨m, metric, value⟩, rfl⟩))

theorem scopeFile_iff : ScopeFile rows metrics names ↔
    ∃ part ∈ environmentParts metrics rows, part.form.names = names := by
  constructor
  · intro file
    cases file with
    | box metric value => exact ⟨_, value.box_mem metric, rfl⟩
    | @table m bench metric value =>
        have there := hasValue_iff.mp value
        exact ⟨.table m.key bench, mem_environmentParts_iff.mpr (.inl ⟨m, metric,
          mem_metricParts_iff.mpr
            ⟨select_ne_nil_iff.mpr value.observed, .inl ⟨bench, there, .inr rfl⟩⟩⟩), rfl⟩
    | @master m metric observed =>
        exact ⟨.master m.key, mem_environmentParts_iff.mpr (.inl ⟨m, metric,
          mem_metricParts_iff.mpr ⟨select_ne_nil_iff.mpr observed, .inr rfl⟩⟩), rfl⟩
    | panel metric value => exact ⟨_, value.panel_mem metric, rfl⟩
  · rintro ⟨part, hp, rfl⟩
    obtain ⟨m, metric, hp⟩ | hp := mem_environmentParts_iff.mp hp
    · obtain ⟨observed, ⟨bench, there, rfl | rfl⟩ | rfl⟩ := mem_metricParts_iff.mp hp
      · exact .box metric (hasValue_iff.mpr there)
      · exact .table metric (hasValue_iff.mpr there)
      · exact .master metric (select_ne_nil_iff.mp observed)
    · obtain ⟨bench, reported, rfl⟩ := mem_panelParts_iff.mp hp
      obtain ⟨m, metric, value⟩ := reported_iff_exists_hasValue.mp reported
      exact .panel metric value

/-- The file of a document of an environment that has a folder. -/
theorem Item.names_form_environment {envid : String} (name : Path.IsName (fileStem envid))
    (part : Part) : (Item.mk (some envid) part).form.names =
      "envs" :: fileStem envid :: part.form.names := by
  simp [form, Form.names, environmentFolders, name.busy]

theorem reportFile_iff
    (stems : environments = true → ∀ o ∈ rows, Path.IsName (fileStem o.envid)) :
    ReportFile rows metrics baseline environments names ↔
      ∃ item ∈ items rows metrics baseline environments, item.form.names = names := by
  simp only [mem_items_iff, mem_mainParts_iff]
  constructor
  · intro file
    cases file with
    | scope file =>
        obtain ⟨part, hp, rfl⟩ := scopeFile_iff.mp file
        exact ⟨⟨none, part⟩, .inl ⟨rfl, .inl hp⟩, rfl⟩
    | @pivot m metric value =>
        have there : ∃ o ∈ m.select rows, o.value.isSome = true := by
          simpa only [Metric.mem_select, and_assoc] using value
        exact ⟨⟨none, .pivot m.key⟩, .inl ⟨rfl, .inr (.inl
          ⟨m, metric, mem_pivotParts_iff.mpr ⟨rfl, there⟩⟩)⟩, rfl⟩
    | @overall m metric value =>
        have compared : (Comparison.ofRows (m.select rows) baseline).isSome := by
          simpa only [Comparison.isSome_ofRows_iff, Metric.mem_select, and_assoc] using value
        exact ⟨⟨none, .overall m.key⟩, .inl ⟨rfl, .inr (.inr (.inl
          ⟨m, metric, mem_rankingParts_iff.mpr (.inl ⟨rfl, compared⟩)⟩))⟩, rfl⟩
    | @summary m metric =>
        exact ⟨⟨none, .summary m.key⟩, .inl ⟨rfl, .inr (.inr (.inl
          ⟨m, metric, mem_rankingParts_iff.mpr (.inr (.inl rfl))⟩))⟩, rfl⟩
    | @detailed m metric =>
        exact ⟨⟨none, .detailed m.key⟩, .inl ⟨rfl, .inr (.inr (.inl
          ⟨m, metric, mem_rankingParts_iff.mpr (.inr (.inr rfl))⟩))⟩, rfl⟩
    | dashboard => exact ⟨⟨none, .dashboard⟩, .inl ⟨rfl, .inr (.inr (.inr (.inl rfl)))⟩, rfl⟩
    | text => exact ⟨⟨none, .text⟩, .inl ⟨rfl, .inr (.inr (.inr (.inr rfl)))⟩, rfl⟩
    | @environment o _ repeated observed file =>
        obtain ⟨part, hp, rfl⟩ := scopeFile_iff.mp file
        exact ⟨⟨some o.envid, part⟩, .inr ⟨repeated, o.envid,
          Grouping.mem_environments_iff.mpr ⟨o, observed, rfl⟩, rfl, hp⟩,
          Item.names_form_environment (stems repeated o observed) part⟩
  · rintro ⟨⟨_, part⟩, ⟨rfl, hp⟩ | ⟨repeated, envid, he, rfl, hp⟩, rfl⟩
    · obtain hp | ⟨m, metric, hp⟩ | ⟨m, metric, hp⟩ | rfl | rfl := hp
      · exact .scope (scopeFile_iff.mpr ⟨part, hp, rfl⟩)
      · obtain ⟨rfl, value⟩ := mem_pivotParts_iff.mp hp
        exact .pivot metric (by simpa only [Metric.mem_select, and_assoc] using value)
      · obtain ⟨rfl, compared⟩ | rfl | rfl := mem_rankingParts_iff.mp hp
        · refine .overall metric ?_
          simpa only [Comparison.isSome_ofRows_iff, Metric.mem_select, and_assoc] using compared
        · exact .summary metric
        · exact .detailed metric
      · exact .dashboard
      · exact .text
    · obtain ⟨o, ho, rfl⟩ := Grouping.mem_environments_iff.mp he
      rw [Item.names_form_environment (stems repeated o ho)]
      exact .environment repeated ho (scopeFile_iff.mpr ⟨part, hp, rfl⟩)

/-! ## What a report leaves -/

/-- The place of every document of a report is that of its file below the folder of the report. -/
theorem places_steps (keys : ∀ m ∈ metrics, Path.IsName m.key)
    (stems : environments = true → ∀ o ∈ rows, Path.IsName (fileStem o.envid)) :
    Step.places t root (steps root rows metrics baseline environments) =
      (items rows metrics baseline environments).map fun item =>
        t.placeOf root ++ item.form.names := by
  have name : ∀ key ∈ metrics.map (·.key), Path.IsName key :=
    List.forall_mem_map.mpr keys
  have proper : ∀ envid ∈ (if environments then Grouping.environments rows else []),
      fileStem envid ≠ ".." := by
    split
    next on =>
      intro envid he
      obtain ⟨o, ho, rfl⟩ := Grouping.mem_environments_iff.mp he
      exact (stems on o ho).proper
    · exact nofun
  rw [places_eq]
  exact List.map_congr_left fun item hi => Item.placeOf_within name proper (among_items hi)

/-- A report into a folder that holds no files leaves exactly the listed files there, if keys of
metrics and names of environments stand for names of folders and everything can be written. -/
theorem isSome_fileAt?_steps_iff (t : Files.Tree Document) (root : Path) (rows : List Observation)
    (metrics : List Metric) (baseline : String) (environments : Bool)
    (keys : ∀ m ∈ metrics, Path.IsName m.key)
    (stems : environments = true → ∀ o ∈ rows, Path.IsName (fileStem o.envid))
    (vacant : ∀ names, t.fileAt? (t.placeOf root ++ names) = none)
    (done : ((Progress.start t).run root
      (steps root rows metrics baseline environments)).failure = none) (names : List String) :
    (((Progress.start t).run root (steps root rows metrics baseline environments)).tree.fileAt?
      (t.placeOf root ++ names)).isSome ↔
      ReportFile rows metrics baseline environments names := by
  rw [Progress.fileAt?_run rfl done, show (Progress.start t).tree = t from rfl, vacant,
    Option.or_none, List.getLast?_isSome, ne_eq, Step.documentsAt_eq_nil_iff, not_not,
    places_steps keys stems, reportFile_iff stems]
  simp only [List.mem_map, List.append_right_inj]

/-- Two environments, a value that is missing and a metric that is not observed: there are files of
one benchmark, in one metric and one environment, and the table of the other environment. -/
theorem isSome_fileAt?_steps_iff_two :
    let rows : List Observation :=
      [⟨"a/b", "X", "s", "c", "u", "1", some 1, none, none, none⟩,
        ⟨"d", "Y", "s", "c", "u", "2", none, none, none, none⟩]
    let metrics : List Metric := [⟨"t", "c", "u", "", "", 0⟩, ⟨"g", "d", "u", "", "", 0⟩]
    let t : Files.Tree Document := Tree.bare []
    let report := steps "o" rows metrics "X" true
    (∀ m ∈ metrics, Path.IsName m.key) ∧ (∀ o ∈ rows, Path.IsName (fileStem o.envid)) ∧
    (∀ names, t.fileAt? (t.placeOf "o" ++ names) = none) ∧
    ((Progress.start t).run "o" report).failure = none ∧
    ∀ names, (((Progress.start t).run "o" report).tree.fileAt? (t.placeOf "o" ++ names)).isSome ↔
      ReportFile rows metrics "X" true names := by
  intro rows metrics t report
  have keys : ∀ m ∈ metrics, Path.IsName m.key := by decide
  have stems : ∀ o ∈ rows, Path.IsName (fileStem o.envid) := by decide
  have vacant : ∀ names, t.fileAt? (t.placeOf "o" ++ names) = none :=
    fun _ => Tree.fileAt?_bare _ _
  have housed : ∀ o ∈ rows, Plain (fileStem o.envid) := by decide
  have done : ((Progress.start t).run "o" report).failure = none :=
    failure_steps_eq_none (Plain.ground (by decide)) rows metrics "X" true (by decide) (by decide)
      fun _ o ho => .inr (housed o ho)
  exact ⟨keys, stems, vacant, done,
    isSome_fileAt?_steps_iff t "o" rows metrics "X" true keys (fun _ => stems) vacant done⟩

end Speedup.Report
