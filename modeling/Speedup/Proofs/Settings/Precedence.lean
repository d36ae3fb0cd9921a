import Mathlib.Data.List.ReduceOption
import Speedup.Proofs.CommandLine.Preparation
import Speedup.Proofs.Settings.Documents

/-!
# What takes precedence

The command line takes precedence over documents, later documents over earlier ones, and all of
them over what is known from the start. It does so setting by setting (`Follows`): what a document
says about one field of a metric leaves the other fields to the documents before it. Only excluded
suites add up, and only those of the command line to those of the documents (`Governs`).
-/

namespace Speedup

open Ordered Setting CommandLine

/-! ## Settings that follow documents -/

def builtInKeys : List String := Metric.builtIn.map (·.key)

def builtIn? (key : String) : Option Metric := Metric.builtIn.find? fun m => m.key = key

/-- Every metric that is new in documents gets a criterion and a unit from some of them. -/
def Complete (docs : List Entries) : Prop :=
  ∀ key, Mentions docs key → key ∉ builtInKeys →
    (lastText docs ["metric", key, "criterion"]).isSome ∧
      (lastText docs ["metric", key, "unit"]).isSome

/-- Each field of a metric is what the last document says that says it, or else what is known from
the start; of a new metric some fields are derived. -/
structure MetricFollows (docs : List Entries) (m : Metric) : Prop where
  criterion : (lastText docs ["metric", m.key, "criterion"] <|>
    (builtIn? m.key).map (·.criterion)) = some m.criterion
  unit : (lastText docs ["metric", m.key, "unit"] <|>
    (builtIn? m.key).map (·.unit)) = some m.unit
  label : (lastText docs ["metric", m.key, "label"] <|>
    (builtIn? m.key).map (·.label)).getD (m.criterion ++ " (" ++ m.unit ++ ")") = m.label
  title : (lastText docs ["metric", m.key, "title"] <|>
    (builtIn? m.key).map (·.title)).getD m.criterion = m.title
  precision : (lastNatural docs ["metric", m.key, "precision"] <|>
    (builtIn? m.key).map (·.precision)).getD Metric.defaultPrecision = m.precision

instance (docs : List Entries) (m : Metric) : Decidable (MetricFollows docs m) :=
  decidable_of_iff (_ ∧ _ ∧ _ ∧ _ ∧ _)
    ⟨fun h => ⟨h.1, h.2.1, h.2.2.1, h.2.2.2.1, h.2.2.2.2⟩, fun h => ⟨h.1, h.2, h.3, h.4, h.5⟩⟩

/-- Documents leave no choice about a metric. -/
theorem MetricFollows.unique {docs : List Entries} {m m' : Metric} (h : MetricFollows docs m)
    (h' : MetricFollows docs m') (same : m.key = m'.key) : m = m' := by
  have criterion : m.criterion = m'.criterion :=
    Option.some_inj.mp (h.criterion.symm.trans (same ▸ h'.criterion))
  have unit : m.unit = m'.unit := Option.some_inj.mp (h.unit.symm.trans (same ▸ h'.unit))
  obtain ⟨key, c, u, label, title, precision⟩ := m
  obtain ⟨key', c', u', label', title', precision'⟩ := m'
  cases same
  cases criterion
  cases unit
  rw [Metric.mk.injEq]
  exact ⟨rfl, rfl, rfl, h.label.symm.trans h'.label, h.title.symm.trans h'.title,
    h.precision.symm.trans h'.precision⟩

/-- The settings that documents lead to. -/
structure Follows (docs : List Entries) (settings : Settings) : Prop where
  baseline : settings.baseline = lastText docs ["report", "baseline"]
  outputFolder : settings.outputFolder =
    (lastText docs ["report", "output_dir"]).getD Settings.defaultOutputFolder
  excludedSuites : settings.excludedSuites =
    (lastTexts docs ["report", "exclude_suites"]).getD []
  /-- There are the metrics known from the start, and behind them the new ones, by key. -/
  keys : ∃ new, settings.metrics.map (·.key) = builtInKeys ++ new ∧ Ascending new ∧
    ∀ key, key ∈ new ↔ key ∉ builtInKeys ∧ Mentions docs key
  metrics : ∀ m ∈ settings.metrics, MetricFollows docs m

variable {docs : List Entries} {key : String} {m : Metric} {settings : Settings}
  {overrides : Table String MetricOverride}

theorem mentions_iff :
    Mentions docs key ↔ ∃ doc ∈ docs, ∃ s ∈ given doc ["metric"], ∃ f ∈ s.fields, f.1 = key := by
  refine exists_congr fun doc => and_congr_right fun _ => ?_
  have inside : given doc ["metric", key] = (given doc ["metric"]).flatMap (said [key]) :=
    given_append doc ["metric"] [key]
  rw [inside]
  constructor
  · intro something
    obtain ⟨v, hv⟩ := List.exists_mem_of_ne_nil _ something
    obtain ⟨s, hs, hv⟩ := List.mem_flatMap.mp hv
    exact ⟨s, hs, _, mem_said_singleton.mp hv, rfl⟩
  · rintro ⟨s, hs, f, hf, rfl⟩
    exact List.ne_nil_of_mem (List.mem_flatMap.mpr ⟨s, hs, mem_said_singleton.mpr hf⟩)

/-- It is enough to look at the metrics that are in some table. -/
instance (docs : List Entries) : Decidable (Complete docs) :=
  decidable_of_iff (∀ doc ∈ docs, ∀ s ∈ given doc ["metric"], ∀ f ∈ s.fields,
    f.1 ∉ builtInKeys → (lastText docs ["metric", f.1, "criterion"]).isSome ∧
      (lastText docs ["metric", f.1, "unit"]).isSome) <| by
    simp only [Complete, mentions_iff]
    constructor
    · rintro h key ⟨doc, hdoc, s, hs, f, hf, rfl⟩
      exact h doc hdoc s hs f hf
    · exact fun h doc hdoc s hs f hf => h f.1 ⟨doc, hdoc, s, hs, f, hf, rfl⟩

/-- Where no table of a metric is, nothing is said about its fields. -/
theorem lastGiven_of_not_mentions (h : ¬ Mentions docs key) (name : String) :
    lastGiven docs ["metric", key, name] = none := by
  rw [← getLast?_flatMap_given, List.getLast?_eq_none_iff]
  rw [not_mentions_iff] at h
  have inside := flatMap_given_append docs ["metric", key] [name]
  rw [h] at inside
  exact inside

theorem builtIn?_key (h : m ∈ Metric.builtIn) : builtIn? m.key = some m := by
  revert m
  decide

theorem builtIn?_eq_none (h : key ∉ builtInKeys) : builtIn? key = none := by
  rw [builtIn?, List.find?_eq_none]
  exact fun m hm same => h (List.mem_map.mpr ⟨m, hm, by simpa using same⟩)

/-! ## Metrics -/

/-- Overrides that say what documents say. -/
def Represents (overrides : Table String MetricOverride) (docs : List Entries) : Prop :=
  ∀ key o, overrides.get? key = some o ↔ Mentions docs key ∧ o = overrideOf docs key

theorem applyTo_overrideOf_of_not_mentions (h : ¬ Mentions docs key) (m : Metric) :
    (overrideOf docs key).applyTo m = m := by
  simp [overrideOf, MetricOverride.applyTo, lastText, lastNatural, lastGiven_of_not_mentions h]

theorem changedBy_eq (same : Represents overrides docs) (m : Metric) :
    MetricOverride.changedBy overrides.entries m = (overrideOf docs m.key).applyTo m := by
  rw [MetricOverride.changedBy_eq_elim]
  cases found : overrides.get? m.key with
  | none =>
      refine (applyTo_overrideOf_of_not_mentions (fun mentioned => ?_) m).symm
      rw [(same m.key _).mpr ⟨mentioned, rfl⟩] at found
      cases found
  | some o =>
      rw [((same m.key o).mp found).2]
      rfl

/-- A metric known from the start takes from documents what they say about it. -/
theorem metricFollows_changedBy (same : Represents overrides docs) (known : m ∈ Metric.builtIn) :
    MetricFollows docs (MetricOverride.changedBy overrides.entries m) := by
  rw [changedBy_eq same]
  have found : builtIn? ((overrideOf docs m.key).applyTo m).key = some m := builtIn?_key known
  constructor <;> rw [found] <;> simp [overrideOf, MetricOverride.applyTo]

theorem metricFollows_newAmong (same : Represents overrides docs)
    (new : m ∈ MetricOverride.newAmong builtInKeys overrides.entries) : MetricFollows docs m := by
  obtain ⟨unknown, o, there, made⟩ := MetricOverride.key_of_mem_newAmong new
  obtain ⟨_, rfl⟩ := (same _ _).mp (Table.get?_eq_some_iff.mpr there)
  obtain ⟨_, criterion, unit, label, title, precision⟩ :=
    MetricOverride.newMetric?_eq_some_iff.mp made
  constructor <;> rw [builtIn?_eq_none unknown]
  · simpa [overrideOf] using criterion
  · simpa [overrideOf] using unit
  · simpa [overrideOf] using label
  · simpa [overrideOf] using title
  · simpa [overrideOf] using precision

/-! ## Settings -/

/-- Every key that is mentioned and new brings a metric. -/
theorem mem_keys_newAmong_iff (same : Represents overrides docs) (complete : Complete docs) :
    key ∈ (MetricOverride.newAmong builtInKeys overrides.entries).map (·.key) ↔
      key ∉ builtInKeys ∧ Mentions docs key := by
  constructor
  · intro new
    obtain ⟨m, hm, rfl⟩ := List.mem_map.mp new
    obtain ⟨unknown, o, there, _⟩ := MetricOverride.key_of_mem_newAmong hm
    exact ⟨unknown, ((same _ _).mp (Table.get?_eq_some_iff.mpr there)).1⟩
  · rintro ⟨unknown, mentioned⟩
    obtain ⟨m, made⟩ := Option.isSome_iff_exists.mp <|
      MetricOverride.isSome_newMetric?_iff (o := overrideOf docs key) |>.mpr
        (complete key mentioned unknown)
    have there := Table.get?_eq_some_iff.mp ((same key _).mpr ⟨mentioned, rfl⟩)
    refine List.mem_map.mpr ⟨m, List.mem_filterMap.mpr ⟨_, there, ?_⟩, ?_⟩
    · rw [if_neg unknown, ← made]
    · exact (MetricOverride.newMetric?_eq_some_iff.mp made).1

/-- Documents that are made as settings are meant to be lead to settings that follow them. -/
theorem exists_follows (typed : ∀ doc ∈ docs, WellTyped doc) (complete : Complete docs) :
    ∃ settings, Settings.ofRoot (docs.foldl addLayer (table [])) = .ok settings ∧
      Follows docs settings := by
  obtain ⟨overrides, said, same⟩ := overrides_eq typed
  have once : (Metric.builtIn.map (·.key)).Nodup := by decide
  have merged := MetricOverride.merge_eq once fun key o there new => by
    obtain ⟨mentioned, rfl⟩ := (same key o).mp there
    exact complete key mentioned new
  have baseline := reportField?_eq typed fun s table v hv =>
    not_isTable_of_text? (table.baseline v hv)
  have output := reportField?_eq typed fun s table v hv =>
    not_isTable_of_text? (table.output v hv)
  have suites := reportField?_eq typed fun s table v hv =>
    not_isTable_of_texts? (table.suites v hv)
  unfold Settings.ofRoot
  rw [said]
  simp only [bind, Except.bind, merged, baseline, output, suites]
  refine ⟨_, rfl, rfl, rfl, rfl, ?_, fun m hm => ?_⟩
  · exact ⟨_, MetricOverride.keys_effect _ _,
      overrides.ascending.sublist (MetricOverride.keys_newAmong_sublist _ _),
      fun key => mem_keys_newAmong_iff same complete⟩
  · rcases List.mem_append.mp hm with known | new
    · obtain ⟨b, hb, rfl⟩ := List.mem_map.mp known
      exact metricFollows_changedBy same hb
    · exact metricFollows_newAmong same new

/-! ## Commands -/

def baselineOf (docs : List Entries) (input : Input) : Option String :=
  input.baseline <|> lastText docs ["report", "baseline"]

def folderOf (docs : List Entries) (folder : Option Path) : Path :=
  folder.getD ((lastText docs ["report", "output_dir"]).getD Settings.defaultOutputFolder)

def suitesOf (docs : List Entries) (input : Input) : List String :=
  (lastTexts docs ["report", "exclude_suites"]).getD [] ++ input.excludedSuites

/-- What commands do by documents and settings: with no baseline from anywhere they do not compare
at all, and otherwise what is compared, left out and put somewhere is as these say. -/
structure Governs (docs : List Entries) (settings : Settings) (s : Surroundings) : Prop where
  loaded : s.settings = .ok settings
  compareWithout : ∀ input keys output, baselineOf docs input = none →
    (Plan.make s (.compare input keys output)).failure = some Plan.noBaseline
  reportWithout : ∀ input folder environments, baselineOf docs input = none →
    (Plan.make s (.report input folder environments)).failure = some Plan.noBaseline
  summary : ∀ input keys, (Plan.make s (.summary input keys)).failure = none →
    ∃ (notes : List Log.Entry) (rows : List Observation),
      Considers s (suitesOf docs input) input rows ∧
      Plan.make s (.summary input keys) = Plan.here
        (notes.map .note ++ [.print (Overview.summary (chosen settings keys) rows)]) none
  compare : ∀ input keys output, (Plan.make s (.compare input keys output)).failure = none →
    ∃ (notes : List Log.Entry) (rows : List Observation) (baseline : String) (form : OutputForm),
      baselineOf docs input = some baseline ∧ Considers s (suitesOf docs input) input rows ∧
      OutputForm.ofPath? output = some form ∧
      Plan.make s (.compare input keys output) = Plan.here (notes.map .note ++
        Report.comparisonSteps (MetricComparison.all rows (chosen settings keys) baseline)
          output form) none
  report : ∀ input folder environments,
    (Plan.make s (.report input folder environments)).failure = none →
    ∃ (notes : List Log.Entry) (rows : List Observation) (baseline : String),
      baselineOf docs input = some baseline ∧ Considers s (suitesOf docs input) input rows ∧
      Plan.make s (.report input folder environments) = ⟨folderOf docs folder,
        notes.map .note ++ Report.steps (folderOf docs folder) rows settings.metrics baseline
          environments, none⟩

variable {s : Surroundings}

/-- The baseline is asked for right after the settings. -/
theorem failure_of_no_baseline {c : Command} {given : Option String} {rest : List Stage}
    (stages : c.stages = .settings :: .baseline given :: rest) (loaded : s.settings = .ok settings)
    (none_given : given = none ∧ settings.baseline = none) :
    (Plan.make s c).failure = some Plan.noBaseline := by
  have work : c ≠ .config := by
    rintro rfl
    cases stages
  rw [failure_make, (decide_ofCommand s work).some_iff, stages]
  exact .later ⟨settings, loaded⟩ (.here ⟨settings, loaded, none_given, rfl⟩)

theorem baselineOf_eq (follows : Follows docs settings) (input : Input) :
    (input.baseline <|> settings.baseline) = baselineOf docs input := by
  rw [follows.baseline, baselineOf]

theorem excludedSuites_eq (follows : Follows docs settings) (input : Input) :
    Plan.excludedSuites settings input = suitesOf docs input := by
  rw [Plan.excludedSuites, follows.excludedSuites, suitesOf]

theorem governs (follows : Follows docs settings) (loaded : s.settings = .ok settings) :
    Governs docs settings s where
  loaded := loaded
  compareWithout input keys output nothing := by
    rw [← baselineOf_eq follows] at nothing
    exact failure_of_no_baseline rfl loaded (by simpa using nothing)
  reportWithout input folder environments nothing := by
    rw [← baselineOf_eq follows] at nothing
    exact failure_of_no_baseline rfl loaded (by simpa using nothing)
  summary input keys ready := by
    have works := works_make (c := .summary input keys) nofun ready
    generalize Plan.make s (.summary input keys) = plan at works
    cases works with
    | @summary settings' _ rows _ notes loaded' considers =>
        obtain rfl := Except.ok.inj (loaded.symm.trans loaded')
        rw [excludedSuites_eq follows] at considers
        exact ⟨notes, rows, considers, rfl⟩
  compare input keys output ready := by
    have works := works_make (c := .compare input keys output) nofun ready
    generalize Plan.make s (.compare input keys output) = plan at works
    cases works with
    | @compare settings' _ baseline rows _ _ form notes loaded' found considers supported =>
        obtain rfl := Except.ok.inj (loaded.symm.trans loaded')
        rw [excludedSuites_eq follows] at considers
        rw [baselineOf_eq follows] at found
        exact ⟨notes, rows, baseline, form, found, considers, supported, rfl⟩
  report input folder environments ready := by
    have works := works_make (c := .report input folder environments) nofun ready
    generalize Plan.make s (.report input folder environments) = plan at works
    cases works with
    | @report settings' _ baseline rows _ _ notes loaded' found considers =>
        obtain rfl := Except.ok.inj (loaded.symm.trans loaded')
        rw [excludedSuites_eq follows] at considers
        rw [baselineOf_eq follows] at found
        have root : folder.getD settings.outputFolder = folderOf docs folder := by
          rw [follows.outputFolder, folderOf]
        rw [root]
        exact ⟨notes, rows, baseline, found, considers, rfl⟩

/-- Settings and commands follow the documents of all layers that there are. -/
theorem governs_layers (layers : List (Option String))
    (read : layers.reduceOption.mapM Toml.parse? = some docs)
    (typed : ∀ doc ∈ docs, WellTyped doc) (complete : Complete docs) :
    ∃ root settings, Setting.ofTexts? layers.reduceOption = some root ∧
      Settings.ofRoot root = .ok settings ∧ Follows docs settings ∧
      ∀ s : Surroundings, s.settingsPaths.map s.layer? = layers → Governs docs settings s := by
  obtain ⟨settings, made, follows⟩ := exists_follows typed complete
  have root : Setting.ofTexts? layers.reduceOption = some (docs.foldl addLayer (table [])) := by
    rw [Setting.ofTexts?, read]
    rfl
  refine ⟨_, settings, root, made, follows, fun s same => governs follows ?_⟩
  have texts : s.settingsPaths.filterMap s.layer? = layers.reduceOption := by
    rw [← same, List.reduceOption, List.filterMap_map]
    rfl
  rw [Surroundings.settings, Surroundings.root, texts, root]
  exact made

/-- The second of two files replaces a list, changes one field of a metric and completes another
metric; all that it does not mention stays as the first one says. -/
theorem governs_layers_two :
    let low := "[report]\nbaseline='a'\nexclude_suites=['s']\n" ++
      "[metric]\nbytes.label='B'\ncpu.criterion='c'\n"
    let high := "report.exclude_suites=['t']\n[metric]\nbytes.precision=1\ncpu.unit='s'\n"
    let docs := ([low, high].mapM Toml.parse?).getD []
    let s : Surroundings := {
      working := some ["w"], configHome := some "/c", home := none
      read := fun path =>
        if path = "/c/bench-report/config.toml" then .ok (Text.Utf8.encode low)
        else if path = "/w/.benchreportconfig" then .ok (Text.Utf8.encode high)
        else .error .notFound }
    [some low, some high].reduceOption.mapM Toml.parse? = some docs ∧
    (∀ doc ∈ docs, WellTyped doc) ∧ Complete docs ∧
    ∃ settings, Follows docs settings ∧ Governs docs settings s ∧
      settings.baseline = some "a" ∧ settings.excludedSuites = ["t"] ∧
      (∀ m ∈ settings.metrics, m.key = "bytes" →
        m = ⟨"bytes", "Allocated", "bytes", "B", "Allocated bytes", 1⟩) ∧
      ∃ m ∈ settings.metrics, m = ⟨"cpu", "c", "s", "c (s)", "c", 2⟩ := by
  intro low high docs s
  have facts : ([low, high].mapM Toml.parse?).isSome ∧ (∀ doc ∈ docs, WellTyped doc) ∧
      Complete docs ∧ lastText docs ["report", "baseline"] = some "a" ∧
      lastTexts docs ["report", "exclude_suites"] = some ["t"] ∧
      MetricFollows docs ⟨"bytes", "Allocated", "bytes", "B", "Allocated bytes", 1⟩ ∧
      MetricFollows docs ⟨"cpu", "c", "s", "c (s)", "c", 2⟩ ∧
      (docs.any fun doc => !(given doc ["metric", "cpu"]).isEmpty) := by
    decide +kernel
  obtain ⟨read, typed, complete, baseline, suites, bytes, cpu, mentioned⟩ := facts
  have parsed : [low, high].mapM Toml.parse? = some docs := by
    obtain ⟨docs', h⟩ := Option.isSome_iff_exists.mp read
    show _ = some (([low, high].mapM Toml.parse?).getD [])
    rw [h]
    rfl
  obtain ⟨root, settings, _, _, follows, governs⟩ :=
    governs_layers [some low, some high] parsed typed complete
  refine ⟨parsed, typed, complete, settings, follows, governs s (by decide +kernel), ?_, ?_, ?_, ?_⟩
  · rw [follows.baseline, baseline]
  · rw [follows.excludedSuites, suites]
    rfl
  · exact fun m hm key => (follows.metrics m hm).unique bytes key
  · obtain ⟨new, keys, _, mem_new⟩ := follows.keys
    have there : "cpu" ∈ settings.metrics.map (·.key) := by
      rw [keys]
      refine List.mem_append_right _ ((mem_new "cpu").mpr ⟨by decide, ?_⟩)
      simpa [Mentions] using mentioned
    obtain ⟨m, hm, key⟩ := List.mem_map.mp there
    exact ⟨m, hm, (follows.metrics m hm).unique cpu key⟩

end Speedup
