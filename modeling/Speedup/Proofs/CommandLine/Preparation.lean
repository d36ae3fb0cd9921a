import Speedup.CommandLine.Plan
import Speedup.Proofs.Report.Fewer

/-!
# Preparing the work

Before a command begins its work, several things can fail: there are no settings, no baseline, a
text that is no pattern, a table that cannot be loaded, a metric that nobody knows, an output of no
form. These are the stages of a command (`Command.stages`), and what each of them asks for is said
without the others (`Stage.Succeeds`, `Stage.Fails`). The plan of a command goes through its stages
one by one (`Realises`). So it ends in the failure of the first stage that fails (`FailsFirst`) and
is then nothing but notes, which neither print nor write; if all stages succeed it is the work on
what they have brought (`Works`).
-/

namespace Speedup

/-! ## Attempts -/

namespace Attempt

variable {α β : Type}

@[simp] theorem result_pure (x : α) : (pure x : Attempt α).result = .ok x := rfl

@[simp] theorem result_note (entries : List Log.Entry) : (note entries).result = .ok () := rfl

@[simp] theorem result_ofResult (r : Except Failure α) : (ofResult r).result = r := rfl

/-- The next attempt decides once there is a result to begin it with. -/
theorem result_bind (a : Attempt α) (next : α → Attempt β) :
    (a >>= next).result = a.result >>= fun x => (next x).result := by
  show (a.andThen next).result = _
  unfold andThen
  cases h : a.result <;> rfl

end Attempt

namespace CommandLine

/-! ## Stages -/

/-- Something that is done before the work begins. -/
inductive Stage where
  | settings
  /-- The baseline is given, or else it is among the settings. -/
  | baseline (given : Option String)
  /-- All texts are patterns. -/
  | patterns (texts : List String)
  | table (path : Path)
  /-- All keys are those of metrics. -/
  | metrics (keys : List String)
  | form (output : Path)

/-- The stages of a command, in their order. Showing the settings needs none of them. -/
def Command.stages : Command → List Stage
  | .summary input keys =>
    [.settings, .patterns (input.benches ++ input.exes), .table input.path, .metrics keys]
  | .compare input keys output =>
    [.settings, .baseline input.baseline, .patterns (input.benches ++ input.exes),
      .table input.path, .metrics keys, .form output]
  | .report input _ _ =>
    [.settings, .baseline input.baseline, .patterns (input.benches ++ input.exes),
      .table input.path]
  | .config => []

def Known (settings : Settings) (key : String) : Prop := ∃ m ∈ settings.metrics, m.key = key

namespace Stage

def Succeeds (s : Surroundings) : Stage → Prop
  | settings => ∃ settings, s.settings = .ok settings
  | baseline given => ∃ settings, s.settings = .ok settings ∧
      (given.isSome ∨ settings.baseline.isSome)
  | patterns texts => ∀ text ∈ texts, s.patterns.Compiles text
  | table path => ∃ rows, ObservationTable.load path (s.read path) = .ok rows
  | metrics keys => ∃ settings, s.settings = .ok settings ∧ ∀ key ∈ keys, Known settings key
  | form output => ∃ form, OutputForm.ofPath? output = some form

/-- How a stage fails; of several reasons the first one counts. -/
def Fails (s : Surroundings) : Stage → Failure → Prop
  | settings, f => ∃ problem, s.settings = .error problem ∧
      f = .plain (problem.message s.wording)
  | baseline given, f => ∃ settings, s.settings = .ok settings ∧
      (given = none ∧ settings.baseline = none) ∧ f = Plan.noBaseline
  | patterns texts, f => ∃ before text after, texts = before ++ text :: after ∧
      (∀ earlier ∈ before, s.patterns.Compiles earlier) ∧
        ∃ reason, s.patterns.compile text = .error reason ∧ f = Plan.badPattern ⟨text, reason⟩
  | table path, f => ∃ e, ObservationTable.load path (s.read path) = .error e ∧
      f = Plan.notLoaded path e
  | metrics keys, f => ∃ settings, s.settings = .ok settings ∧ ∃ before key after,
      keys = before ++ key :: after ∧ (∀ earlier ∈ before, Known settings earlier) ∧
        ¬ Known settings key ∧ f = settings.unknownMetric key
  | form output, f => OutputForm.ofPath? output = none ∧ f = Report.formUnknown output

end Stage

/-- The first of some stages that does not succeed fails in this way. -/
inductive FailsFirst (s : Surroundings) : List Stage → Failure → Prop
  | here {stage rest f} : stage.Fails s f → FailsFirst s (stage :: rest) f
  | later {stage rest f} : stage.Succeeds s → FailsFirst s rest f → FailsFirst s (stage :: rest) f

/-- The metrics with the given keys, or all of them. -/
def chosen (settings : Settings) (keys : List String) : List Metric :=
  settings.metrics.filter fun m => keys.isEmpty || keys.contains m.key

/-- The observations that a command works on: those of the table that its patterns let through and
that are not of some suites. -/
structure Considers (s : Surroundings) (suites : List String) (input : Input)
    (rows : List Observation) : Prop where
  exists_eq : ∃ selection all,
    Selection.ofPatterns suites input.benches input.exes s.patterns = .ok selection ∧
    ObservationTable.load input.path (s.read input.path) = .ok all ∧ rows = selection.apply all

/-- The plan of a command that is prepared: some notes, and then its work. -/
inductive Works (s : Surroundings) : Command → Plan → Prop
  | summary {settings input rows keys} (notes : List Log.Entry) : s.settings = .ok settings →
      Considers s (Plan.excludedSuites settings input) input rows →
      Works s (.summary input keys)
        (Plan.here (notes.map .note ++ [.print (Overview.summary (chosen settings keys) rows)])
          none)
  | compare {settings input baseline rows keys output form} (notes : List Log.Entry) :
      s.settings = .ok settings → (input.baseline <|> settings.baseline) = some baseline →
      Considers s (Plan.excludedSuites settings input) input rows →
      OutputForm.ofPath? output = some form →
      Works s (.compare input keys output)
        (Plan.here (notes.map .note ++ Report.comparisonSteps
          (MetricComparison.all rows (chosen settings keys) baseline) output form) none)
  | report {settings input baseline rows folder environments} (notes : List Log.Entry) :
      s.settings = .ok settings → (input.baseline <|> settings.baseline) = some baseline →
      Considers s (Plan.excludedSuites settings input) input rows →
      Works s (.report input folder environments)
        ⟨folder.getD settings.outputFolder, notes.map .note ++ Report.steps
          (folder.getD settings.outputFolder) rows settings.metrics baseline environments, none⟩

/-! ## The first failure -/

def okUnless {ε α : Type} (failure : Option ε) (result : α) : Except ε α :=
  match failure with
  | some e => .error e
  | none => .ok result

theorem mapError_okUnless {ε ε' α : Type} (f : ε → ε') (failure : Option ε) (result : α) :
    (okUnless failure result).mapError f = okUnless (failure.map f) result := by
  cases failure <;> rfl

def problem? (l : PatternLanguage) (text : String) : Option InvalidPattern :=
  match l.compile text with
  | .ok _ => none
  | .error reason => some ⟨text, reason⟩

theorem problem?_eq_none_iff {l : PatternLanguage} {text : String} :
    problem? l text = none ↔ l.Compiles text := by
  cases h : l.compile text <;> simp [problem?, PatternLanguage.Compiles, h]

theorem problem?_eq_some_iff {l : PatternLanguage} {text : String} {e : InvalidPattern} :
    problem? l text = some e ↔ ∃ reason, l.compile text = .error reason ∧ e = ⟨text, reason⟩ := by
  cases h : l.compile text <;> simp [problem?, h, eq_comm]

theorem readPatterns_eq (l : PatternLanguage) (texts : List String) :
    Selection.readPatterns texts l = okUnless (texts.findSome? (problem? l))
      (texts.filterMap fun text => (l.compile text).toOption) := by
  unfold Selection.readPatterns
  induction texts with
  | nil => rfl
  | cons text rest ih =>
      rw [List.mapM_cons, ih, List.findSome?_cons, List.filterMap_cons]
      cases h : l.compile text with
      | error reason => simp [problem?, h, bind, Except.bind, Except.mapError, okUnless]
      | ok test =>
          cases rest.findSome? (problem? l) <;>
            simp [problem?, h, bind, Except.bind, pure, Except.pure, Except.mapError,
              Except.toOption, okUnless]

/-- Patterns for benchmarks are read before those for executables. -/
theorem ofPatterns_eq (l : PatternLanguage) (suites benches exes : List String) :
    Selection.ofPatterns suites benches exes l =
      okUnless ((benches ++ exes).findSome? (problem? l))
        ⟨suites, benches.filterMap fun text => (l.compile text).toOption,
          exes.filterMap fun text => (l.compile text).toOption⟩ := by
  unfold Selection.ofPatterns
  rw [readPatterns_eq, readPatterns_eq, List.findSome?_append]
  cases benches.findSome? (problem? l) with
  | some e => rfl
  | none => cases exes.findSome? (problem? l) <;> rfl

def isUnknown (settings : Settings) (key : String) : Bool :=
  !settings.metrics.any (·.key == key)

theorem isUnknown_eq_false_iff {settings : Settings} {key : String} :
    isUnknown settings key = false ↔ Known settings key := by
  simp [isUnknown, Known]

theorem isUnknown_eq_true_iff {settings : Settings} {key : String} :
    isUnknown settings key = true ↔ ¬ Known settings key := by
  rw [← isUnknown_eq_false_iff, Bool.not_eq_false]

theorem selectMetrics_eq (settings : Settings) (keys : List String) :
    settings.selectMetrics keys =
      okUnless ((keys.find? (isUnknown settings)).map settings.unknownMetric)
        (chosen settings keys) := by
  unfold Settings.selectMetrics isUnknown
  cases keys.find? _ <;> rfl

theorem selectMetrics_eq_ok_iff {settings : Settings} {keys : List String}
    {metrics : List Metric} : settings.selectMetrics keys = .ok metrics ↔
      (∀ key ∈ keys, Known settings key) ∧ metrics = chosen settings keys := by
  rw [selectMetrics_eq]
  cases first : keys.find? (isUnknown settings) with
  | none =>
      have known : ∀ key ∈ keys, Known settings key := by
        simpa [isUnknown_eq_false_iff] using List.find?_eq_none.mp first
      exact ⟨fun h => ⟨known, (Except.ok.inj h).symm⟩, fun h => congrArg Except.ok h.2.symm⟩
  | some key =>
      refine iff_of_false nofun fun ⟨known, _⟩ => ?_
      exact isUnknown_eq_true_iff.mp (List.find?_some first)
        (known key (List.mem_of_find?_eq_some first))

/-! ## Stages that are gone through -/

variable {s : Surroundings} {settings : Settings} {stage : Stage} {rest stages : List Stage}
  {α : Type}

/-- A result is there if a stage succeeds, and is missing as the stage fails. -/
structure Realises (s : Surroundings) (r : Except Failure α) (stage : Stage) : Prop where
  succeeds : (∃ x, r = .ok x) ↔ stage.Succeeds s
  fails : ∀ f, r = .error f ↔ stage.Fails s f

theorem realises_settings (s : Surroundings) : Realises s (Plan.settings s).result .settings := by
  show Realises s (s.settings.mapError fun problem => .plain (problem.message s.wording)) .settings
  cases loaded : s.settings with
  | error problem =>
      exact ⟨by simp [Stage.Succeeds, loaded, Except.mapError],
        by simp [Stage.Fails, loaded, Except.mapError, eq_comm]⟩
  | ok settings =>
      exact ⟨by simp [Stage.Succeeds, loaded, Except.mapError],
        by simp [Stage.Fails, loaded, Except.mapError]⟩

theorem realises_baseline (loaded : s.settings = .ok settings) (input : Input) :
    Realises s (Plan.baseline settings input).result (.baseline input.baseline) := by
  constructor
  · cases given : input.baseline <;> cases configured : settings.baseline <;>
      simp [Plan.baseline, Stage.Succeeds, loaded, given, configured]
  · cases given : input.baseline <;> cases configured : settings.baseline <;>
      simp [Plan.baseline, Stage.Fails, loaded, given, configured, eq_comm]

/-- Where something is asked of several things, the first that lacks it is the failure. -/
theorem realises_first {β : Type} {xs : List β} {problem : β → Option Failure}
    (succeeds : stage.Succeeds s ↔ ∀ x ∈ xs, problem x = none)
    (fails : ∀ f, stage.Fails s f ↔ ∃ before x after, xs = before ++ x :: after ∧
      (∀ y ∈ before, problem y = none) ∧ problem x = some f) (result : α) :
    Realises s (okUnless (xs.findSome? problem) result) stage where
  succeeds := by
    rw [succeeds, ← List.findSome?_eq_none_iff]
    cases xs.findSome? problem <;> simp [okUnless]
  fails := by
    intro f
    have found : okUnless (xs.findSome? problem) result = .error f ↔
        xs.findSome? problem = some f := by
      cases xs.findSome? problem <;> simp [okUnless]
    rw [found, fails, List.findSome?_eq_some_iff]
    simp only [and_comm]

theorem realises_patterns (s : Surroundings) (settings : Settings) (input : Input) :
    Realises s (Plan.selection s settings input).result
      (.patterns (input.benches ++ input.exes)) := by
  show Realises s ((Selection.ofPatterns _ input.benches input.exes s.patterns).mapError
    Plan.badPattern) _
  rw [ofPatterns_eq, mapError_okUnless, List.map_findSome?]
  apply realises_first
  · simp [Stage.Succeeds, problem?_eq_none_iff]
  · intro f
    simp [Stage.Fails, problem?_eq_none_iff, problem?_eq_some_iff, eq_comm (a := f)]

theorem realises_table (s : Surroundings) (input : Input) :
    Realises s ((ObservationTable.load input.path (s.read input.path)).mapError
      (Plan.notLoaded input.path)) (.table input.path) := by
  cases loaded : ObservationTable.load input.path (s.read input.path) with
  | error e =>
      exact ⟨by simp [Stage.Succeeds, loaded, Except.mapError],
        by simp [Stage.Fails, loaded, Except.mapError, eq_comm]⟩
  | ok rows =>
      exact ⟨by simp [Stage.Succeeds, loaded, Except.mapError],
        by simp [Stage.Fails, loaded, Except.mapError]⟩

theorem realises_metrics (loaded : s.settings = .ok settings) (keys : List String) :
    Realises s (settings.selectMetrics keys) (.metrics keys) := by
  rw [selectMetrics_eq, ← List.findSome?_guard, List.map_findSome?]
  apply realises_first
  · simp [Stage.Succeeds, loaded, isUnknown_eq_false_iff]
  · intro f
    simp [Stage.Fails, loaded, isUnknown_eq_false_iff, ← Bool.not_eq_false, eq_comm (a := f)]

def endsIn : Except Failure Plan → Option Failure
  | .error f => some f
  | .ok plan => plan.failure

/-- Stages decide how a plan fails. -/
structure Decide (s : Surroundings) (stages : List Stage) (outcome : Option Failure) : Prop where
  none_iff : outcome = none ↔ ∀ stage ∈ stages, stage.Succeeds s
  some_iff : ∀ f, outcome = some f ↔ FailsFirst s stages f

theorem failsFirst_cons_iff {f : Failure} : FailsFirst s (stage :: rest) f ↔
    stage.Fails s f ∨ stage.Succeeds s ∧ FailsFirst s rest f := by
  constructor
  · intro h
    cases h with
    | here fails => exact .inl fails
    | later succeeds fails => exact .inr ⟨succeeds, fails⟩
  · rintro (fails | ⟨succeeds, fails⟩)
    · exact .here fails
    · exact .later succeeds fails

theorem not_failsFirst_nil {f : Failure} : ¬ FailsFirst s [] f := nofun

theorem Decide.nil (s : Surroundings) : Decide s [] none where
  none_iff := by simp
  some_iff := fun _ => iff_of_false nofun not_failsFirst_nil

/-- One more stage in front decides first. -/
theorem Decide.bind {r : Except Failure α} {next : α → Except Failure Plan}
    (realises : Realises s r stage)
    (later : ∀ x, r = .ok x → Decide s rest (endsIn (next x))) :
    Decide s (stage :: rest) (endsIn (r >>= next)) := by
  cases result : r with
  | error e =>
      have not_succeeds : ¬ stage.Succeeds s := by
        rw [← realises.succeeds, result]
        rintro ⟨_, h⟩
        cases h
      have fails : ∀ f, e = f ↔ stage.Fails s f := by
        intro f
        rw [← realises.fails, result, Except.error.injEq]
      constructor
      · show some e = none ↔ _
        simp [not_succeeds]
      · intro f
        show some e = some f ↔ _
        rw [Option.some_inj, failsFirst_cons_iff, fails]
        simp [not_succeeds]
  | ok x =>
      have succeeds : stage.Succeeds s := realises.succeeds.mp ⟨x, result⟩
      have not_fails : ∀ f, ¬ stage.Fails s f := by
        intro f
        rw [← realises.fails, result]
        nofun
      have decide := later x result
      constructor
      · show endsIn (next x) = none ↔ _
        rw [decide.none_iff, List.forall_mem_cons, and_iff_right succeeds]
      · intro f
        show endsIn (next x) = some f ↔ _
        rw [decide.some_iff, failsFirst_cons_iff]
        simp [succeeds, not_fails]

/-! ## Commands -/

def loading (s : Surroundings) (input : Input) : Except Failure (List Observation) :=
  (ObservationTable.load input.path (s.read input.path)).mapError (Plan.notLoaded input.path)

theorem result_observations (s : Surroundings) (settings : Settings) (input : Input) :
    (Plan.observations s settings input).result =
      (Plan.selection s settings input).result >>= fun selection =>
        loading s input >>= fun all => .ok (selection.apply all) := by
  simp only [Plan.observations, Plan.table, Attempt.result_bind, Attempt.result_ofResult,
    Attempt.result_note, Attempt.result_pure, bind_assoc]
  rfl

theorem result_summary (s : Surroundings) (input : Input) (keys : List String) :
    (Plan.summary s input keys).result =
      (Plan.settings s).result >>= fun settings =>
      (Plan.selection s settings input).result >>= fun selection =>
      loading s input >>= fun all =>
      settings.selectMetrics keys >>= fun metrics =>
        .ok (Plan.here [.print (Overview.summary metrics (selection.apply all))] none) := by
  simp only [Plan.summary, Plan.metrics, Attempt.result_bind, result_observations,
    Attempt.result_ofResult, Attempt.result_pure, bind_assoc]
  rfl

theorem result_compare (s : Surroundings) (input : Input) (keys : List String) (output : Path) :
    (Plan.compare s input keys output).result =
      (Plan.settings s).result >>= fun settings =>
      (Plan.baseline settings input).result >>= fun baseline =>
      (Plan.selection s settings input).result >>= fun selection =>
      loading s input >>= fun all =>
      settings.selectMetrics keys >>= fun metrics =>
        .ok (Plan.here (Report.compare (selection.apply all) metrics baseline output).1
          (Report.compare (selection.apply all) metrics baseline output).2) := by
  simp only [Plan.compare, Plan.metrics, Attempt.result_bind, result_observations,
    Attempt.result_ofResult, Attempt.result_pure, bind_assoc]
  rfl

theorem result_report (s : Surroundings) (input : Input) (folder : Option Path)
    (environments : Bool) :
    (Plan.report s input folder environments).result =
      (Plan.settings s).result >>= fun settings =>
      (Plan.baseline settings input).result >>= fun baseline =>
      (Plan.selection s settings input).result >>= fun selection =>
      loading s input >>= fun all =>
        .ok ⟨folder.getD settings.outputFolder, Report.steps (folder.getD settings.outputFolder)
          (selection.apply all) settings.metrics baseline environments, none⟩ := by
  simp only [Plan.report, Attempt.result_bind, result_observations, Attempt.result_pure,
    bind_assoc]
  rfl

theorem mapError_eq_ok_iff {ε ε' : Type} {f : ε → ε'} {r : Except ε α} {x : α} :
    r.mapError f = .ok x ↔ r = .ok x := by
  cases r <;> simp [Except.mapError]

theorem loaded_of_result (h : (Plan.settings s).result = .ok settings) :
    s.settings = .ok settings := mapError_eq_ok_iff.mp h

/-- The form is asked for last, when there is nothing left to fail. -/
theorem decide_compare (s : Surroundings) (rows : List Observation) (metrics : List Metric)
    (baseline : String) (output : Path) :
    Decide s [.form output] (Report.compare rows metrics baseline output).2 := by
  cases form : OutputForm.ofPath? output with
  | none =>
      constructor
      · simp [Report.compare, Stage.Succeeds, form]
      · simp [Report.compare, Stage.Fails, form, failsFirst_cons_iff, not_failsFirst_nil, eq_comm]
  | some form' =>
      constructor
      · simp [Report.compare, Stage.Succeeds, form]
      · simp [Report.compare, Stage.Fails, form, failsFirst_cons_iff, not_failsFirst_nil]

/-- The stages of a command decide how its plan fails. -/
theorem decide_ofCommand (s : Surroundings) {c : Command} (work : c ≠ .config) :
    Decide s c.stages (endsIn (Plan.ofCommand s c).result) := by
  cases c with
  | summary input keys =>
      show Decide s _ (endsIn (Plan.summary s input keys).result)
      rw [result_summary]
      refine .bind (realises_settings s) fun settings loaded => ?_
      refine .bind (realises_patterns s settings input) fun selection _ => ?_
      refine .bind (realises_table s input) fun all _ => ?_
      refine .bind (realises_metrics (loaded_of_result loaded) keys) fun metrics _ => ?_
      exact .nil s
  | compare input keys output =>
      show Decide s _ (endsIn (Plan.compare s input keys output).result)
      rw [result_compare]
      refine .bind (realises_settings s) fun settings loaded => ?_
      refine .bind (realises_baseline (loaded_of_result loaded) input) fun baseline _ => ?_
      refine .bind (realises_patterns s settings input) fun selection _ => ?_
      refine .bind (realises_table s input) fun all _ => ?_
      refine .bind (realises_metrics (loaded_of_result loaded) keys) fun metrics _ => ?_
      exact decide_compare s _ metrics baseline output
  | report input folder environments =>
      show Decide s _ (endsIn (Plan.report s input folder environments).result)
      rw [result_report]
      refine .bind (realises_settings s) fun settings loaded => ?_
      refine .bind (realises_baseline (loaded_of_result loaded) input) fun baseline _ => ?_
      refine .bind (realises_patterns s settings input) fun selection _ => ?_
      refine .bind (realises_table s input) fun all _ => ?_
      exact .nil s
  | config => exact absurd rfl work

theorem failure_make (s : Surroundings) (c : Command) :
    (Plan.make s c).failure = endsIn (Plan.ofCommand s c).result := by
  unfold Plan.make
  dsimp only
  split
  next failed => rw [failed]; rfl
  next made => rw [made]; rfl

/-! ## Work -/

theorem make_of_result {c : Command} {plan : Plan} (made : (Plan.ofCommand s c).result = .ok plan) :
    Plan.make s c = { plan with steps := (Plan.ofCommand s c).log.map .note ++ plan.steps } := by
  unfold Plan.make
  dsimp only
  rw [made]

theorem considers_of_result {input : Input} {selection : Selection} {all : List Observation}
    (selected : (Plan.selection s settings input).result = .ok selection)
    (loaded : loading s input = .ok all) :
    Considers s (Plan.excludedSuites settings input) input (selection.apply all) :=
  ⟨selection, all, mapError_eq_ok_iff.mp selected, mapError_eq_ok_iff.mp loaded, rfl⟩

theorem baseline_of_result {input : Input} {baseline : String}
    (h : (Plan.baseline settings input).result = .ok baseline) :
    (input.baseline <|> settings.baseline) = some baseline := by
  unfold Plan.baseline at h
  rw [Attempt.result_ofResult] at h
  split at h
  next found => rw [found, Except.ok.inj h]
  next => cases h

/-- A plan is made of what the stages have brought. Only comparisons can be planned without any
work, where there is no form for their output. -/
theorem works_of_result {c : Command} {plan : Plan} (work : c ≠ .config)
    (made : (Plan.ofCommand s c).result = .ok plan) :
    plan.failure = none ∧ Works s c plan ∨
      plan.failure ≠ none ∧ ∃ notes : List Log.Entry, plan.steps = notes.map .note := by
  cases c with
  | summary input keys =>
      change (Plan.summary s input keys).result = .ok plan at made
      simp only [result_summary, Files.bind_eq_ok_iff] at made
      obtain ⟨settings, h, selection, hs, all, ha, metrics, hm, ⟨rfl⟩⟩ := made
      rw [(selectMetrics_eq_ok_iff.mp hm).2]
      exact .inl ⟨rfl, .summary [] (loaded_of_result h) (considers_of_result hs ha)⟩
  | compare input keys output =>
      change (Plan.compare s input keys output).result = .ok plan at made
      simp only [result_compare, Files.bind_eq_ok_iff] at made
      obtain ⟨settings, h, baseline, hb, selection, hs, all, ha, metrics, hm, ⟨rfl⟩⟩ := made
      rw [(selectMetrics_eq_ok_iff.mp hm).2]
      have considers := considers_of_result hs ha
      generalize selection.apply all = rows at considers
      unfold Report.compare
      cases form : OutputForm.ofPath? output with
      | none => exact .inr ⟨nofun, _, Report.comparisonNotes_eq baseline _⟩
      | some form' =>
          dsimp only
          rw [Report.comparisonNotes_eq]
          exact .inl ⟨rfl, .compare _ (loaded_of_result h) (baseline_of_result hb) considers form⟩
  | report input folder environments =>
      change (Plan.report s input folder environments).result = .ok plan at made
      simp only [result_report, Files.bind_eq_ok_iff] at made
      obtain ⟨settings, h, baseline, hb, selection, hs, all, ha, ⟨rfl⟩⟩ := made
      exact .inl ⟨rfl, .report [] (loaded_of_result h) (baseline_of_result hb)
        (considers_of_result hs ha)⟩
  | config => exact absurd rfl work

theorem Works.note {c : Command} {plan : Plan} (works : Works s c plan) (notes : List Log.Entry) :
    Works s c { plan with steps := notes.map .note ++ plan.steps } := by
  cases works with
  | summary own loaded considers =>
      simp only [Plan.here, ← List.append_assoc, ← List.map_append]
      exact .summary _ loaded considers
  | compare own loaded found considers form =>
      simp only [Plan.here, ← List.append_assoc, ← List.map_append]
      exact .compare _ loaded found considers form
  | report own loaded found considers =>
      simp only [← List.append_assoc, ← List.map_append]
      exact .report _ loaded found considers

/-- A plan is that of a prepared command, or else it fails and is nothing but notes. -/
theorem works_or_notes_make {c : Command} (work : c ≠ .config) :
    (Plan.make s c).failure = none ∧ Works s c (Plan.make s c) ∨
      (Plan.make s c).failure ≠ none ∧
        ∃ notes : List Log.Entry, (Plan.make s c).steps = notes.map .note := by
  cases made : (Plan.ofCommand s c).result with
  | error f =>
      unfold Plan.make
      dsimp only
      rw [made]
      exact .inr ⟨nofun, _, rfl⟩
  | ok plan =>
      rw [make_of_result made]
      rcases works_of_result work made with ⟨ready, works⟩ | ⟨fails, notes, steps⟩
      · exact .inl ⟨ready, works.note _⟩
      · refine .inr ⟨fails, (Plan.ofCommand s c).log ++ notes, ?_⟩
        rw [steps, List.map_append]

theorem works_make {c : Command} (work : c ≠ .config) (ready : (Plan.make s c).failure = none) :
    Works s c (Plan.make s c) := by
  rcases works_or_notes_make work with ⟨_, works⟩ | ⟨fails, _⟩
  · exact works
  · exact absurd ready fails

/-- A plan that fails logs, and leaves everything else as it is. -/
theorem run_of_failure {c : Command} {f : Failure} (work : c ≠ .config)
    (fails : (Plan.make s c).failure = some f) (tree : Files.Tree Document) :
    ∃ log, (Plan.make s c).run tree = ⟨tree, log, "", some f⟩ := by
  rcases works_or_notes_make work with ⟨ready, _⟩ | ⟨_, notes, steps⟩
  · rw [fails] at ready
    cases ready
  · refine ⟨notes, ?_⟩
    simp [Plan.run, steps, Progress.run_notes, Progress.start, fails]

/-! ## What preparation decides -/

end CommandLine

end Speedup
