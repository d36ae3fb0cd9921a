import Speedup.Proofs.Csv.Records
import Speedup.Proofs.Report.Skipped
import Speedup.Proofs.Report.Success

/-!
# Comparing and reporting show the same

A report shows the rankings of all metrics as a text and each of them as a table of its own;
comparing shows them as one text or as one table. Both go through the metrics in their own way. The
text is nevertheless the same, character by character (`TextAgrees`), and the one table is made of
the others, without a record more or less or in another order (`TableAgrees`). That is also true of
what is read back from them, whatever characters the names of executables and metrics hold.

Where the text of a report ends up does not depend on names either: all other documents have another
ending, so none of them can take its place.
-/

namespace Speedup.Report

open Files Ordered Text

variable {rows : List Observation} {metrics : List Metric} {baseline : String}

/-! ## The text of a report -/

theorem prints_metricSteps (root : Path) (within : List Path) (m : Metric)
    (rows : List Observation) (baseline : String) :
    Step.prints (metricSteps root within m rows baseline) = [] := by
  have boxes (bench : String) : Step.prints (boxSteps within m rows baseline bench) = [] := by
    unfold boxSteps
    split <;> rfl
  have tables (place : List Path) (bench : String) :
      Step.prints (benchSteps place rows baseline bench) = [] := by
    unfold benchSteps
    rw [Step.prints_append, Step.prints_map_eq_nil fun _ => rfl]
    rfl
  unfold metricSteps benchTables
  split
  · rfl
  · rw [Step.prints_append, Step.prints_append, Step.prints_flatMap, Step.prints_flatMap,
      List.flatMap_eq_nil_iff.mpr fun bench _ => boxes bench,
      List.flatMap_eq_nil_iff.mpr fun bench _ => tables _ bench]
    rfl

theorem prints_panelsSteps (within : List Path) (metrics : List Metric)
    (rows : List Observation) : Step.prints (panelsSteps within metrics rows) = [] := by
  unfold panelsSteps
  rw [Step.prints_flatMap, List.flatMap_eq_nil_iff]
  intro bench _
  unfold panelSteps
  dsimp only
  rw [Step.prints_append, Step.prints_map_eq_nil fun _ => rfl]
  cases Chart.panel? bench _ <;> rfl

theorem prints_valueSteps (root : Path) (baseline : String) (m : MetricComparison) :
    Step.prints (valueSteps root baseline m) = [] := by
  unfold valueSteps
  rw [Step.prints_append, prints_metricSteps]
  cases Chart.pivot? m.metric (Pivot.ofRows m.rows) <;> rfl

theorem prints_rankingSteps (m : MetricComparison) : Step.prints (rankingSteps m) = [] := by
  unfold rankingSteps
  cases m.comparison <;> rfl

theorem prints_environmentSteps (root : Path) (rows : List Observation) (metrics : List Metric)
    (baseline envid : String) :
    Step.prints (environmentSteps root rows metrics baseline envid) = [] := by
  unfold environmentSteps
  dsimp only
  rw [Step.prints_append, Step.prints_flatMap, prints_panelsSteps,
    List.flatMap_eq_nil_iff.mpr fun m _ => prints_metricSteps _ _ _ _ _]
  rfl

def laterSteps (root : Path) (rows : List Observation) (metrics : List Metric)
    (baseline : String) (environments : Bool) : List Step :=
  if environments then
    (Grouping.environments rows).flatMap (environmentSteps root rows metrics baseline)
  else []

theorem prints_laterSteps (root : Path) (rows : List Observation) (metrics : List Metric)
    (baseline : String) (environments : Bool) :
    Step.prints (laterSteps root rows metrics baseline environments) = [] := by
  unfold laterSteps
  split
  · rw [Step.prints_flatMap, List.flatMap_eq_nil_iff]
    intro envid _
    exact prints_environmentSteps _ _ _ _ _
  · rfl

/-- The only text that a report prints is one that it has just written. -/
theorem exists_steps_eq (root : Path) (rows : List Observation) (metrics : List Metric)
    (baseline : String) (environments : Bool) :
    let text := MetricComparison.overview (MetricComparison.all rows metrics baseline)
    ∃ before, Step.prints before = [] ∧
      steps root rows metrics baseline environments = before ++ .write textPlace (.text text) ::
        .print (text ++ "\n") :: laterSteps root rows metrics baseline environments := by
  intro text
  unfold steps mainSteps overallSteps
  dsimp only
  simp only [List.append_assoc, List.cons_append, List.nil_append]
  simp only [← List.append_assoc]
  refine ⟨_, ?_, rfl⟩
  have notes : Step.prints (comparisonNotes baseline (MetricComparison.all rows metrics baseline))
      = [] := by
    rw [comparisonNotes_eq]
    exact Step.prints_map_eq_nil (fun _ => rfl) _
  have dashboard := Step.prints_map_eq_nil (f := Step.note) (fun _ => rfl)
    (Chart.dashboardLog (MetricComparison.drawn (MetricComparison.all rows metrics baseline)))
  simp only [Step.prints_append, Step.prints_flatMap, notes, dashboard, prints_valueSteps,
    prints_panelsSteps, prints_rankingSteps]
  simp [Step.prints, chartSteps, Step.print?]

/-- No document of a report takes the place of its text. -/
theorem textPlace_not_mem_places (t : Files.Tree Document) (root : Path) (rows : List Observation)
    (metrics : List Metric) (baseline : String) (environments : Bool) :
    t.placeOf (Path.below root textPlace) ∉
      Step.places t root (laterSteps root rows metrics baseline environments) := by
  unfold laterSteps
  split
  · intro there
    rw [Step.places, Step.written_flatMap] at there
    obtain ⟨_, written, same⟩ := List.mem_map.mp there
    obtain ⟨envid, _, written⟩ := List.mem_flatMap.mp written
    rw [written_environmentSteps] at written
    obtain ⟨part, hp, rfl⟩ := List.mem_map.mp written
    have ending : part.form.ending = Part.text.form.ending :=
      Part.ending_eq_of_placeOf_eq _ [] same
    have repeated := (among_environmentParts hp).2
    cases part <;> simp_all [Part.form, Part.repeated]
  · exact List.not_mem_nil

/-- A report either fails without printing anything, or it prints the text that its file holds in
the end. -/
theorem printed_steps (t : Files.Tree Document) (root : Path) (rows : List Observation)
    (metrics : List Metric) (baseline : String) (environments : Bool) :
    let text := MetricComparison.overview (MetricComparison.all rows metrics baseline)
    let report := (Progress.start t).run root (steps root rows metrics baseline environments)
    (report.failure ≠ none ∧ report.printed = "") ∨
      (report.printed = text ++ "\n" ∧
        report.tree.read (Path.below root textPlace) = .ok (.text text)) := by
  obtain ⟨before, silent, parts⟩ := exists_steps_eq root rows metrics baseline environments
  exact Progress.printed_run_of_once parts silent
    (prints_laterSteps root rows metrics baseline environments)
    (textPlace_not_mem_places t root rows metrics baseline environments)

/-! ## The text of a comparison -/

variable {output : Path}

theorem run_compare_of_isPrint (print : OutputForm.isPrint output = true)
    (t : Files.Tree Document) (folder : Path) (rows : List Observation) (metrics : List Metric)
    (baseline : String) :
    let text := MetricComparison.overview (MetricComparison.all rows metrics baseline)
    let shown := (Progress.start t).run folder (compare rows metrics baseline output).1
    shown.failure = none ∧ shown.printed = text ∧ shown.tree = t := by
  have supported : OutputForm.ofPath? output = some .text := if_pos print
  obtain ⟨entries, steps⟩ := exists_compare_eq supported rows metrics baseline
  intro text shown
  have done : shown = { Progress.start t with log := [] ++ entries, printed := "" ++ text } := by
    show (Progress.start t).run folder (compare rows metrics baseline output).1 = _
    rw [steps, Progress.run_concat, Progress.run_notes rfl, outputStep, if_pos print]
    rfl
  rw [done]
  exact ⟨rfl, String.empty_append, rfl⟩

theorem read_compare {form : OutputForm} (supported : OutputForm.ofPath? output = some form)
    (written : ¬ OutputForm.isPrint output = true) (t : Files.Tree Document) (folder : Path)
    (rows : List Observation) (metrics : List Metric) (baseline : String) :
    let shown := (Progress.start t).run folder (compare rows metrics baseline output).1
    shown.printed = "" ∧ (shown.failure = none →
      shown.tree.read (Path.below folder [output]) =
        .ok (outputDocument (MetricComparison.all rows metrics baseline) form)) := by
  obtain ⟨entries, steps⟩ := exists_compare_eq supported rows metrics baseline
  intro shown
  have parts : compare rows metrics baseline output = (entries.map .note ++ [.write [output]
      (outputDocument (MetricComparison.all rows metrics baseline) form)], none) := by
    rw [steps, outputStep, if_neg written]
  constructor
  · show ((Progress.start t).run folder (compare rows metrics baseline output).1).printed = ""
    rw [parts, Progress.printed_run_of_silent]
    · rfl
    · rw [Step.prints_append, Step.prints_map_eq_nil fun _ => rfl]
      rfl
  · show ((Progress.start t).run folder (compare rows metrics baseline output).1).failure = none →
      ((Progress.start t).run folder (compare rows metrics baseline output).1).tree.read _ = _
    rw [parts]
    intro done
    exact Progress.read_run done List.not_mem_nil

/-! ## The tables of rankings -/

def comparisons (rows : List Observation) (metrics : List Metric) (baseline : String) :
    List (String × Comparison) :=
  (MetricComparison.all rows metrics baseline).filterMap fun m =>
    m.comparison.map fun c => (m.metric.key, c)

theorem map_fst_comparisons (rows : List Observation) (metrics : List Metric) (baseline : String) :
    (comparisons rows metrics baseline).map (·.1) =
      (metrics.filter (Compared rows baseline ·)).map (·.key) := by
  unfold comparisons MetricComparison.all
  induction metrics with
  | nil => rfl
  | cons m metrics ih =>
      rw [List.map_cons, List.filter_cons]
      by_cases compared : Compared rows baseline m
      · obtain ⟨c, hc⟩ := Option.isSome_iff_exists.mp (isSome_comparison_iff.mpr compared)
        rw [if_pos (decide_eq_true compared), List.map_cons,
          List.filterMap_cons_some (by rw [hc]; rfl), List.map_cons, ih]
        rfl
      · have missing := Option.not_isSome_iff_eq_none.mp (mt isSome_comparison_iff.mp compared)
        rw [if_neg (by simpa using compared), List.filterMap_cons_none (by rw [missing]; rfl), ih]

theorem ranking_ne_nil {key : String} {c : Comparison}
    (h : (key, c) ∈ comparisons rows metrics baseline) : c.ranking ≠ [] := by
  obtain ⟨m, hm, there⟩ := List.mem_filterMap.mp h
  obtain ⟨metric, _, rfl⟩ := List.mem_map.mp hm
  obtain ⟨c', hc, same⟩ := Option.map_eq_some_iff.mp there
  cases same
  exact Overview.ranking_ne_nil_of_ofMeans hc

/-- A path that the table of a ranking can have. -/
def IsRanking (place : List Path) : Prop := ∃ key, place = overallPlace key

/-- The key in such a path, between `OVERALL_` and `.csv`. -/
def rankingKey (place : List Path) : String :=
  let rest := (place.getLastD "").toList.drop 8
  String.ofList (rest.take (rest.length - 4))

theorem rankingKey_overallPlace (key : String) : rankingKey (overallPlace key) = key := by
  simp [rankingKey, overallPlace, tableName]

instance : DecidablePred IsRanking := fun place =>
  decidable_of_iff (place = overallPlace (rankingKey place)) <| by
    constructor
    · exact fun h => ⟨_, h⟩
    · rintro ⟨key, rfl⟩
      rw [rankingKey_overallPlace]

theorem not_isRanking (part : Part) (other : ∀ key, part ≠ .overall key) :
    ¬ IsRanking part.place := by
  rintro ⟨key, same⟩
  exact other key (Part.eq_overall same)

/-- The tables of rankings that steps write. -/
def rankingDocuments (steps : List Step) : List (List Path × Document) :=
  (Step.documents steps).filter fun d => IsRanking d.1

theorem rankingDocuments_append (xs ys : List Step) :
    rankingDocuments (xs ++ ys) = rankingDocuments xs ++ rankingDocuments ys := by
  simp [rankingDocuments]

theorem rankingDocuments_flatMap {β : Type} (f : β → List Step) (xs : List β) :
    rankingDocuments (xs.flatMap f) = xs.flatMap fun x => rankingDocuments (f x) := by
  simp [rankingDocuments, List.filter_flatMap]

theorem rankingDocuments_eq_nil {steps : List Step} {within : List Path} {parts : List Part}
    (written : Step.written steps = paths within parts)
    (other : ∀ part ∈ parts, ¬ IsRanking (within ++ part.place)) : rankingDocuments steps = [] := by
  rw [rankingDocuments, List.filter_eq_nil_iff]
  intro d hd
  have path := List.mem_map_of_mem hd (f := (·.1))
  rw [Step.map_fst_documents, written] at path
  obtain ⟨part, hp, same⟩ := List.mem_map.mp path
  rw [← same, decide_eq_true_eq]
  exact other part hp

theorem rankingDocuments_valueSteps (root : Path) (baseline : String) (m : MetricComparison) :
    rankingDocuments (valueSteps root baseline m) = [] := by
  apply rankingDocuments_eq_nil written_valueSteps
  intro part hp
  apply not_isRanking
  rintro key rfl
  rcases List.mem_append.mp hp with value | pivot
  · obtain ⟨_, ⟨_, _, h | h⟩ | h⟩ := mem_metricParts_iff.mp value <;> cases h
  · cases (mem_pivotParts_iff.mp pivot).1

theorem rankingDocuments_panelsSteps (metrics : List Metric) (rows : List Observation) :
    rankingDocuments (panelsSteps [] metrics rows) = [] := by
  apply rankingDocuments_eq_nil written_panelsSteps
  intro part hp
  apply not_isRanking
  rintro key rfl
  obtain ⟨_, _, h⟩ := mem_panelParts_iff.mp hp
  cases h

theorem rankingDocuments_chartSteps {place : List Path} (other : ¬ IsRanking place)
    (chart : Chart) : rankingDocuments (chartSteps place chart) = [] := by
  show List.filter (fun d => IsRanking d.1) [(place, Document.page chart)] = []
  rw [List.filter_cons_of_neg (by simpa using other), List.filter_nil]

theorem rankingDocuments_rankingSteps (m : MetricComparison) :
    rankingDocuments (rankingSteps m) = (m.comparison.map fun c =>
      (overallPlace m.metric.key, Document.text (Tables.overall c))).toList := by
  have summary : ¬ IsRanking (summaryPlace m.metric.key) :=
    not_isRanking (.summary m.metric.key) nofun
  have detailed : ¬ IsRanking (detailedPlace m.metric.key) :=
    not_isRanking (.detailed m.metric.key) nofun
  unfold rankingSteps
  dsimp only
  rw [rankingDocuments_append, rankingDocuments_append, rankingDocuments_chartSteps summary,
    rankingDocuments_chartSteps detailed, List.append_nil, List.append_nil]
  cases m.comparison with
  | none => rfl
  | some c =>
      have table : IsRanking (overallPlace m.metric.key) := ⟨_, rfl⟩
      show List.filter (fun d => IsRanking d.1) [(overallPlace m.metric.key, _)] = _
      rw [List.filter_cons_of_pos (by simpa using table), List.filter_nil]
      rfl

theorem rankingDocuments_overallSteps (all : List MetricComparison) :
    rankingDocuments (overallSteps all) = [] := by
  apply rankingDocuments_eq_nil (written_overallSteps all)
  intro part hp
  apply not_isRanking
  rintro key rfl
  simp at hp

theorem rankingDocuments_laterSteps (root : Path) (rows : List Observation)
    (metrics : List Metric) (baseline : String) (environments : Bool) :
    rankingDocuments (laterSteps root rows metrics baseline environments) = [] := by
  unfold laterSteps
  split
  · rw [rankingDocuments_flatMap, List.flatMap_eq_nil_iff]
    intro envid _
    apply rankingDocuments_eq_nil written_environmentSteps
    rintro part - ⟨key, same⟩
    have folder := congrArg List.head? same
    simp [environmentPlace, overallPlace] at folder
  · rfl

/-- A report writes a table for every comparison, in the order of the metrics. -/
theorem rankingDocuments_steps (root : Path) (rows : List Observation) (metrics : List Metric)
    (baseline : String) (environments : Bool) :
    rankingDocuments (steps root rows metrics baseline environments) =
      (comparisons rows metrics baseline).map fun (key, c) =>
        (overallPlace key, .text (Tables.overall c)) := by
  have notes (all : List MetricComparison) :
      rankingDocuments (comparisonNotes baseline all) = [] := by
    unfold rankingDocuments
    rw [comparisonNotes_eq, Step.documents_map_eq_nil fun _ => rfl]
    rfl
  have later := rankingDocuments_laterSteps root rows metrics baseline environments
  unfold laterSteps at later
  unfold steps mainSteps comparisons
  simp only [rankingDocuments_append, rankingDocuments_flatMap, notes, later,
    rankingDocuments_valueSteps, rankingDocuments_panelsSteps, rankingDocuments_overallSteps,
    rankingDocuments_rankingSteps]
  rw [List.map_filterMap, List.filterMap_eq_flatMap_toList,
    List.flatMap_eq_nil_iff.mpr fun _ _ => rfl]
  simp only [List.append_nil, List.nil_append, Option.map_map]
  rfl

/-! ## The records of rankings -/

/-- The records of every comparison that there is, with the key of its metric. -/
def rankings (rows : List Observation) (metrics : List Metric) (baseline : String) :
    List (String × List (List String)) :=
  (comparisons rows metrics baseline).map fun (key, c) => (key, c.ranking.map Tables.overallRow)

/-- The records of tables one after the other, each with the key of its table in front. -/
def withKeys (tables : List (String × List (List String))) : List (List String) :=
  tables.flatMap fun (key, records) => records.map (key :: ·)

theorem withKeys_eq_nil_iff {tables : List (String × List (List String))}
    (filled : ∀ table ∈ tables, table.2 ≠ []) : withKeys tables = [] ↔ tables = [] := by
  constructor
  · intro empty
    rw [withKeys, List.flatMap_eq_nil_iff] at empty
    rw [List.eq_nil_iff_forall_not_mem]
    intro table there
    exact filled table there (List.map_eq_nil_iff.mp (empty table there))
  · rintro rfl
    rfl

theorem rankings_ne_nil {table : String × List (List String)}
    (h : table ∈ rankings rows metrics baseline) : table.2 ≠ [] := by
  obtain ⟨⟨key, c⟩, there, rfl⟩ := List.mem_map.mp h
  exact mt List.map_eq_nil_iff.mp (ranking_ne_nil there)

theorem table_eq_withKeys (rows : List Observation) (metrics : List Metric) (baseline : String) :
    MetricComparison.table (MetricComparison.all rows metrics baseline) =
      Csv.table ("metric" :: Tables.overallHeader) (withKeys (rankings rows metrics baseline)) := by
  unfold withKeys rankings
  simp only [List.flatMap_map, List.map_map]
  rfl

theorem visible_overall (c : Comparison) :
    ∀ r ∈ Tables.overallHeader :: c.ranking.map Tables.overallRow, Csv.Splitter.Visible r := by
  intro r hr
  rcases List.mem_cons.mp hr with rfl | row
  · exact ⟨by decide, by decide⟩
  · obtain ⟨ranked, _, rfl⟩ := List.mem_map.mp row
    constructor <;> simp [Tables.overallRow]

theorem holds_overall {c : Comparison} (ranked : c.ranking ≠ []) :
    Csv.Holds (Utf8.encode (Tables.overall c))
      (Tables.overallHeader :: c.ranking.map Tables.overallRow) := by
  have held := Csv.holds_table (visible_overall c) (by decide +kernel)
  rwa [if_neg (mt List.map_eq_nil_iff.mp ranked)] at held

theorem holds_combined (rows : List Observation) (metrics : List Metric) (baseline : String) :
    Csv.Holds
      (Utf8.encode (MetricComparison.table (MetricComparison.all rows metrics baseline)))
      (if rankings rows metrics baseline = [] then []
        else ("metric" :: Tables.overallHeader) :: withKeys (rankings rows metrics baseline)) := by
  rw [table_eq_withKeys]
  simp only [← withKeys_eq_nil_iff fun _ => rankings_ne_nil]
  apply Csv.holds_table _ (by decide +kernel)
  intro r hr
  rcases List.mem_cons.mp hr with rfl | row
  · exact ⟨by decide, by decide⟩
  · obtain ⟨⟨key, records⟩, there, row⟩ := List.mem_flatMap.mp row
    obtain ⟨⟨_, c⟩, _, same⟩ := List.mem_map.mp there
    cases same
    obtain ⟨record, ranked, rfl⟩ := List.mem_map.mp row
    have shown := visible_overall c record (List.mem_cons_of_mem _ ranked)
    exact ⟨List.cons_ne_nil _ _, fun alone => shown.1 (List.cons.inj alone).2⟩

/-! ## Both commands agree -/

/-- A text that both commands write and print. -/
structure TextAgrees (rows : List Observation) (metrics : List Metric) (baseline text : String) :
    Prop where
  /-- A report prints it with the end of a line, after it has written it, unless it fails before. -/
  report : ∀ (t : Files.Tree Document) (root : Path) (environments : Bool),
    let run := (Progress.start t).run root (steps root rows metrics baseline environments)
    (run.failure ≠ none ∧ run.printed = "") ∨
      (run.printed = text ++ "\n" ∧ run.tree.read (Path.below root textPlace) = .ok (.text text))
  printed : ∀ (t : Files.Tree Document) (folder output : Path),
    OutputForm.isPrint output = true →
    let run := (Progress.start t).run folder (compare rows metrics baseline output).1
    (compare rows metrics baseline output).2 = none ∧ run.failure = none ∧ run.printed = text ∧
      run.tree = t
  written : ∀ (t : Files.Tree Document) (folder output : Path),
    OutputForm.ofPath? output = some .text → ¬ OutputForm.isPrint output = true →
    let run := (Progress.start t).run folder (compare rows metrics baseline output).1
    (compare rows metrics baseline output).2 = none ∧ run.printed = "" ∧
      (run.failure = none → run.tree.read (Path.below folder [output]) = .ok (.text text))

/-- A document that holds the table of a ranking and is written under its key. -/
structure HoldsRanking (d : List Path × Document) (table : String × List (List String)) :
    Prop where
  place : d.1 = overallPlace table.1
  held : ∃ text, d.2 = .text text ∧
    Csv.Holds (Utf8.encode text) (Tables.overallHeader :: table.2)

/-- A text that comparing writes as a table, and the tables of a report that it is made of. -/
structure TableAgrees (rows : List Observation) (metrics : List Metric) (baseline : String)
    (whole : String) (tables : List (String × List (List String))) : Prop where
  /-- In the order of the metrics there is a table for each that is compared. -/
  keys : tables.map (·.1) = (metrics.filter (Compared rows baseline ·)).map (·.key)
  filled : ∀ table ∈ tables, table.2 ≠ []
  /-- A report writes these tables, in this order, and no others of rankings. -/
  report : ∀ (root : Path) (environments : Bool), List.Forall₂ HoldsRanking
    (rankingDocuments (steps root rows metrics baseline environments)) tables
  /-- If nothing takes the place of something else, each of them is there in the end. -/
  kept : ∀ (t : Files.Tree Document) (root : Path) (environments : Bool),
    let written := steps root rows metrics baseline environments
    let run := (Progress.start t).run root written
    Progress.KeepsAll t root written → run.failure = none → ∀ table ∈ tables, ∃ document,
      run.tree.read (Path.below root (overallPlace table.1)) = .ok document ∧
      HoldsRanking (overallPlace table.1, document) table
  compare : ∀ (t : Files.Tree Document) (folder output : Path),
    OutputForm.ofPath? output = some .table →
    let run := (Progress.start t).run folder (compare rows metrics baseline output).1
    (compare rows metrics baseline output).2 = none ∧ run.printed = "" ∧
      (run.failure = none → run.tree.read (Path.below folder [output]) = .ok (.text whole))
  /-- There is one header, unless there is nothing at all. -/
  holds : Csv.Holds (Utf8.encode whole)
    (if tables = [] then [] else ("metric" :: Tables.overallHeader) :: withKeys tables)
  empty : whole = "" ↔ tables = []

theorem textAgrees (rows : List Observation) (metrics : List Metric) (baseline : String) :
    TextAgrees rows metrics baseline
      (MetricComparison.overview (MetricComparison.all rows metrics baseline)) where
  report t root environments := printed_steps t root rows metrics baseline environments
  printed t folder output print := by
    have supported : OutputForm.ofPath? output = some .text := if_pos print
    obtain ⟨entries, steps⟩ := exists_compare_eq supported rows metrics baseline
    refine ⟨by rw [steps], ?_⟩
    exact run_compare_of_isPrint print t folder rows metrics baseline
  written t folder output supported file := by
    obtain ⟨entries, steps⟩ := exists_compare_eq supported rows metrics baseline
    refine ⟨by rw [steps], ?_⟩
    exact read_compare supported file t folder rows metrics baseline

theorem forall₂_rankings (root : Path) (rows : List Observation) (metrics : List Metric)
    (baseline : String) (environments : Bool) :
    List.Forall₂ HoldsRanking (rankingDocuments (steps root rows metrics baseline environments))
      (rankings rows metrics baseline) := by
  rw [rankingDocuments_steps, rankings, List.forall₂_map_left_iff, List.forall₂_map_right_iff,
    List.forall₂_same]
  rintro ⟨key, c⟩ there
  exact ⟨rfl, _, rfl, holds_overall (ranking_ne_nil there)⟩

theorem tableAgrees (rows : List Observation) (metrics : List Metric) (baseline : String) :
    TableAgrees rows metrics baseline
      (MetricComparison.table (MetricComparison.all rows metrics baseline))
      (rankings rows metrics baseline) where
  keys := by
    rw [← map_fst_comparisons, rankings, List.map_map]
    rfl
  filled _ := rankings_ne_nil
  report root environments := forall₂_rankings root rows metrics baseline environments
  kept t root environments := by
    intro written run kept done table there
    obtain ⟨⟨key, c⟩, compared, rfl⟩ := List.mem_map.mp there
    have mem : (overallPlace key, Document.text (Tables.overall c)) ∈ rankingDocuments written := by
      rw [rankingDocuments_steps]
      exact List.mem_map.mpr ⟨(key, c), compared, rfl⟩
    refine ⟨_, kept.read_of_mem done (List.mem_filter.mp mem).1, rfl, _, rfl, ?_⟩
    exact holds_overall (ranking_ne_nil compared)
  compare t folder output supported := by
    obtain ⟨entries, steps⟩ := exists_compare_eq supported rows metrics baseline
    refine ⟨by rw [steps], ?_⟩
    exact read_compare supported (not_isPrint supported (by decide)) t folder rows metrics baseline
  holds := holds_combined rows metrics baseline
  empty := by
    rw [table_eq_withKeys, Csv.table_eq_empty_iff, withKeys_eq_nil_iff fun _ => rankings_ne_nil]

/-- Comparing and reporting agree: there is one text that both show, and the one table that
comparing writes has the records of all tables of rankings that a report writes. -/
theorem commands_agree (rows : List Observation) (metrics : List Metric) (baseline : String) :
    (∃ text, TextAgrees rows metrics baseline text) ∧
      ∃ whole tables, TableAgrees rows metrics baseline whole tables :=
  ⟨⟨_, textAgrees rows metrics baseline⟩, _, _, tableAgrees rows metrics baseline⟩

/-- Names of executables that need quotes, a metric that is compared and one that is not: all is
written, and there is something in it. -/
theorem commands_agree_quoted :
    let rows : List Observation :=
      [⟨"b", "X,Y", "s", "c", "u", "", some 1, none, none, none⟩,
        ⟨"b", "\"Z\"", "s", "c", "u", "", some 1, none, none, none⟩]
    let metrics : List Metric := [⟨"t", "c", "u", "", "", 0⟩, ⟨"g", "d", "u", "", "", 0⟩]
    let report := (Progress.start (Tree.bare [])).run "o" (steps "o" rows metrics "X,Y" false)
    let shown := (Progress.start (Tree.bare [])).run "" (compare rows metrics "X,Y" "c.csv").1
    report.failure = none ∧ shown.failure = none ∧
    (∃ text, TextAgrees rows metrics "X,Y" text ∧ report.printed = text ++ "\n") ∧
    ∃ whole tables, TableAgrees rows metrics "X,Y" whole tables ∧ tables.map (·.1) = ["t"] ∧
      shown.tree.read "c.csv" = .ok (.text whole) ∧ whole ≠ "" := by
  intro rows metrics report shown
  obtain ⟨⟨text, texts⟩, whole, tables, agree⟩ := commands_agree rows metrics "X,Y"
  have supported : OutputForm.ofPath? "c.csv" = some .table := by decide +kernel
  have done : report.failure = none :=
    failure_steps_eq_none (Plain.ground (by decide)) rows metrics "X,Y" false (by decide)
      (by decide) nofun
  have done' : shown.failure = none := by
    refine (failure_compare_eq supported (Tree.bare []) "" rows metrics "X,Y" (.text "")).2.trans ?_
    rw [← Option.isNone_iff_eq_none]
    decide +kernel
  have keys : tables.map (·.1) = ["t"] := agree.keys.trans (by decide)
  refine ⟨done, done', ⟨text, texts, ?_⟩, whole, tables, agree, keys, ?_, ?_⟩
  · rcases texts.report (Tree.bare []) "o" false with ⟨failed, _⟩ | ⟨printed, _⟩
    · exact absurd done failed
    · exact printed
  · exact (agree.compare (Tree.bare []) "" "c.csv" supported).2.2 done'
  · rintro empty
    rw [agree.empty.mp empty] at keys
    cases keys

end Speedup.Report
