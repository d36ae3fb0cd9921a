import Speedup.Proofs.Chart.Subplots
import Speedup.Proofs.Overview

/-!
# What a box plot says of the baseline

A box plot refers to the baseline in two ways: labels of means go on with a distance from it, and a
dashed line with a note stands at its mean. The line is there exactly if a baseline is named and has
a value (`isSome_lineOf?_iff`). Labels look the baseline up under a name in any case, which without
one is the empty text, so they take an executable of this name for the baseline. Everywhere else
both agree (`box_marksBaseline`).
-/

namespace Speedup

open Grouping

variable {rows : List Observation} {metric : Metric} {bench exe : String}
  {baseline : Option String} {chart : Chart}

/-! ## Executables with a value -/

/-- An executable has a value among some observations. -/
def Observed (rows : List Observation) (exe : String) : Prop :=
  ∃ o ∈ rows, o.exe = exe ∧ o.value.isSome

namespace ExeSummary

theorem find?_ofRows (baseline : String) (rows : List Observation) (exe : String) :
    (ofRows baseline rows).find? (·.exe == exe) = of? baseline rows exe := by
  have own := filter_ofRows baseline rows exe
  rw [← List.head?_filter]
  show ((ofRows baseline rows).filter fun s => decide (s.exe = exe)).head? = _
  rw [own]
  cases of? baseline rows exe <;> rfl

end ExeSummary

theorem isSome_ofValues_valuesOf_iff :
    (Stats.ofValues (Chart.valuesOf rows exe)).isSome ↔ Observed rows exe := by
  rw [Sample.isSome_ofValues_iff, Chart.valuesOf_eq, valuesAt_ne_nil_iff]
  rfl

/-! ## Labels -/

namespace Metric

theorem bracket_notMem_display (metric : Metric) (x : Double) :
    ')' ∉ (metric.display x).toList := by
  have number : ')' ∉ (Decimal.fixed metric.precision x).toList := by
    intro bracket
    rcases Decimal.mem_fixed bracket with digit | other
    · exact absurd digit (by decide)
    · exact absurd other (by decide)
  have unit : ∀ u ∈ writtenUnits, ')' ∉ u.toList := by decide
  unfold display
  split
  · split
    next written => simp [number, unit _ written]
    · exact number
  · decide

end Metric

namespace Chart

/-- What a label of a mean ends in if it tells a distance from the baseline. -/
def mark : String := "% vs base)"

/-- A label tells a distance from the baseline. -/
def Compares (label : String) : Prop := mark.toList <:+ label.toList

instance (label : String) : Decidable (Compares label) := inferInstanceAs (Decidable (_ <:+ _))

theorem compares_gainLabel {gain : Double} (front : String) (finite : gain.isFinite = true) :
    Compares (front ++ gainLabel gain) := by
  unfold gainLabel
  rw [if_pos finite]
  simp only [Compares, String.toList_append, ← List.append_assoc]
  exact List.suffix_append _ _

theorem gainLabel_of_not_finite {gain : Double} (front : String) (h : gain.isFinite = false) :
    front ++ gainLabel gain = front := by
  simp [gainLabel, h]

/-- A mean has a distance from the baseline behind it exactly if the distance is finite. -/
theorem compares_iff (metric : Metric) (mean gain : Double) :
    Compares (metric.display mean ++ gainLabel gain) ↔ gain.isFinite = true := by
  cases finite : gain.isFinite with
  | true => exact iff_of_true (compares_gainLabel _ finite) rfl
  | false =>
      rw [gainLabel_of_not_finite _ finite]
      refine iff_of_false (fun compares => ?_) Bool.false_ne_true
      exact metric.bracket_notMem_display mean (compares.subset (by decide))

/-! ## What a document says of the baseline -/

/-- The lines of a document that are drawn across a plot. -/
def shapes? (document : Json) : Option Json :=
  (document.field? "layout").bind (·.field? "shapes")

/-- The notes of a document that stand beside a plot. -/
def annotations? (document : Json) : Option Json :=
  (document.field? "layout").bind (·.field? "annotations")

def textsOf (trace : Json) : List String :=
  match trace.field? "text" with
  | some (.array texts) => texts.filterMap fun t => match t with
    | .string text => some text
    | _ => none
  | _ => []

/-- All texts at points in a document. -/
def labels (document : Json) : List String := (tracesOf document).flatMap textsOf

theorem lookup_axisFields_of_mem_otherFields (axes : List (Axis × Axis)) {name : String}
    (other : name ∈ otherFields) : (axisFields axes).lookup name = none := by
  rw [List.lookup_eq_none_iff]
  intro field hfield
  obtain ⟨⟨_, i⟩, _, pair⟩ := List.mem_flatMap.mp hfield
  have axis : field.1 = axisField "x" i ∨ field.1 = axisField "y" i := by
    rcases List.mem_pair.mp pair with rfl | rfl
    · exact .inl rfl
    · exact .inr rfl
  refine bne_iff_ne.mpr ?_
  rintro rfl
  rcases axis with same | same
  · exact axisField_notMem_otherFields (.inl rfl) i (same ▸ other)
  · exact axisField_notMem_otherFields (.inr rfl) i (same ▸ other)

/-- The fields of a layout that a line has. -/
def lineFields (line : BaselineLine) : List (String × Json) :=
  [("shapes", .array [lineShape line]), ("annotations", .array [lineLabel line])]

/-- A chart of one plot outside of a grid has these fields exactly for its line. -/
theorem field?_layout_line {c : Chart} (single : c.grid = none) (ungrouped : c.grouped = false)
    {name : String} (h : name = "shapes" ∨ name = "annotations") :
    c.layout.field? name = c.baselineLine.bind fun line => (lineFields line).lookup name := by
  have other : name ∈ otherFields := by
    rcases h with rfl | rfl
    · decide
    · decide
  have axes := lookup_axisFields_of_mem_otherFields c.axes other
  rw [layout, Json.field?, single, ungrouped]
  simp only [List.lookup_append, axes]
  rcases h with rfl | rfl
  · cases c.legend <;> cases c.baselineLine <;> rfl
  · cases c.legend <;> cases c.baselineLine <;> rfl

theorem shapes?_plot {c : Chart} (single : c.grid = none) (ungrouped : c.grouped = false) :
    shapes? c.plot = c.baselineLine.map fun line => .array [lineShape line] := by
  refine (field?_layout_line single ungrouped (.inl rfl)).trans ?_
  cases c.baselineLine <;> rfl

theorem annotations?_plot {c : Chart} (single : c.grid = none) (ungrouped : c.grouped = false) :
    annotations? c.plot = c.baselineLine.map fun line => .array [lineLabel line] := by
  refine (field?_layout_line single ungrouped (.inr rfl)).trans ?_
  cases c.baselineLine <;> rfl

/-! ## Points -/

/-- The markers at means in a chart, with their labels. -/
def points (chart : Chart) : List MeanPoint := chart.traces.flatMap fun t => markersOf t.2

theorem textsOf_boxTraces {metric : Metric} {exes : List String}
    {label : String → Double → String} : ∀ t ∈ boxTraces metric rows exes label, ∀ plot,
      textsOf (.object (traceFields plot t)) = (markersOf t).map (·.label) := by
  intro t ht plot
  rcases List.mem_append.mp ht with box | means
  · obtain ⟨b, _, rfl⟩ := List.mem_map.mp box
    rfl
  · cases List.mem_singleton.mp means
    show (((_ : List MeanPoint).map (·.label)).map Json.string).filterMap _ = _
    rw [List.filterMap_map]
    exact List.filterMap_some

theorem isFinite_undefined : Stats.undefined.isFinite = false := by decide

/-! ## Box plots -/

def meanLabel (metric : Metric) (reference : Option Double) (mean : Double) : String :=
  metric.display mean ++ gainLabel (ExeSummary.gainOver reference mean)

/-- The line of a box plot. -/
def lineOf? (metric : Metric) (rows : List Observation) (baseline : Option String) :
    Option BaselineLine :=
  (baseline.bind fun b => Stats.ofValues (valuesOf rows b)).map fun s =>
    baselineLineAt metric s.mean

/-- There is a line exactly if a baseline is named and has a value. -/
theorem isSome_lineOf?_iff {baseline : Option String} : (lineOf? metric rows baseline).isSome ↔
    ∃ b, baseline = some b ∧ Observed rows b := by
  rw [lineOf?, Option.isSome_map]
  cases baseline with
  | none => simp
  | some b => simpa using isSome_ofValues_valuesOf_iff

theorem spec_of_box? (h : box? metric bench rows baseline = some chart) :
    chart.grid = none ∧ chart.grouped = false ∧ chart.baselineLine = lineOf? metric rows baseline ∧
    ∃ label, chart.traces = (boxTraces metric rows
        ((ExeSummary.ofRows (baseline.getD "") rows).map (·.exe)) label).map (fun t => (0, t)) ∧
      ∀ exe s, Stats.ofValues (valuesOf rows exe) = some s → label exe s.mean =
        meanLabel metric (ExeSummary.referenceOf (baseline.getD "") rows) s.mean := by
  unfold box? at h
  simp only [Option.bind_eq_bind, Option.bind_eq_some_iff, ExeSummary.find?_ofRows] at h
  obtain ⟨best, _, range, _, whole⟩ := h
  cases whole
  refine ⟨rfl, rfl, ?_, _, rfl, fun exe s values => ?_⟩
  · show Option.map _ _ = Option.map _ _
    cases baseline with
    | none => rfl
    | some b =>
        show ((Stats.ofValues (valuesOf rows b)).map _).map _ = _
        rw [Option.map_map]
        rfl
  · rw [valuesOf_eq] at values
    show _ ++ gainLabel (((ExeSummary.of? _ rows exe).map (·.gain)).getD _) = _
    rw [ExeSummary.of?, values]
    rfl

section Plotted

variable {exes : List String} {label : String → Double → String}

theorem points_eq (traces : chart.traces =
      (boxTraces metric rows exes label).map fun t => (0, t)) :
    points chart = (boxTraces metric rows exes label).flatMap markersOf := by
  rw [points, traces, List.flatMap_map]

theorem labels_plot (traces : chart.traces =
      (boxTraces metric rows exes label).map fun t => (0, t)) :
    labels chart.plot = (points chart).map (·.label) := by
  have document : tracesOf chart.plot =
      (boxTraces metric rows exes label).map fun t => .object (traceFields 0 t) := by
    show chart.traces.map _ = _
    rw [traces, List.map_map]
    rfl
  rw [labels, document, points_eq traces, List.flatMap_map, List.map_flatMap]
  exact List.flatMap_congr fun t ht => textsOf_boxTraces t ht 0

/-- A marker stands at the mean of an executable that has values. -/
theorem mem_points_iff (traces : chart.traces =
      (boxTraces metric rows exes label).map fun t => (0, t)) {p : MeanPoint} :
    p ∈ points chart ↔ ∃ exe ∈ exes, ∃ s, Stats.ofValues (valuesOf rows exe) = some s ∧
      p = ⟨exe, s.mean, label exe s.mean,
        exe ++ ": mean " ++ (Quantity.ofValue s.mean metric.unit).humanize⟩ := by
  rw [points_eq traces, flatMap_boxTraces]
  simp only [boxesOf, List.mem_map, List.mem_filterMap, List.mem_reverse,
    Option.map_eq_some_iff]
  constructor
  · rintro ⟨_, ⟨exe, listed, s, values, rfl⟩, rfl⟩
    exact ⟨exe, listed, s, values, rfl⟩
  · rintro ⟨exe, listed, s, values, rfl⟩
    exact ⟨_, ⟨exe, listed, s, values, rfl⟩, rfl⟩

end Plotted

/-- What a box plot says of the baseline. -/
structure MarksBaseline (metric : Metric) (rows : List Observation) (baseline : Option String)
    (chart : Chart) : Prop where
  /-- A line and a note stand at the mean of a baseline that is named and has a value. -/
  line : shapes? chart.plot = (lineOf? metric rows baseline).map fun l => .array [lineShape l]
  note : annotations? chart.plot = (lineOf? metric rows baseline).map fun l => .array [lineLabel l]
  line_iff : (shapes? chart.plot).isSome ↔ ∃ b, baseline = some b ∧ Observed rows b
  note_iff : (annotations? chart.plot).isSome ↔ ∃ b, baseline = some b ∧ Observed rows b
  /-- Every executable with a value has a marker at its mean. -/
  marked : ∀ exe mean, (∃ p ∈ points chart, p.exe = exe ∧ p.mean = mean) ↔
    (Stats.ofValues (valuesOf rows exe)).map (·.mean) = some mean
  /-- The texts of the document are labels of these markers. -/
  label : labels chart.plot = (points chart).map fun p =>
    meanLabel metric (ExeSummary.referenceOf (baseline.getD "") rows) p.mean
  /-- A label tells a distance where there is a finite one from the mean of the executable that
  has the name of the baseline, or the empty name if no baseline is named. -/
  compares_iff : ∀ mean,
    Compares (meanLabel metric (ExeSummary.referenceOf (baseline.getD "") rows) mean) ↔
      ∃ s, Stats.ofValues (valuesOf rows (baseline.getD "")) = some s ∧
        (s.mean / mean - 1).isFinite = true
  compared : (∃ text ∈ labels chart.plot, Compares text) → Observed rows (baseline.getD "")

theorem compares_meanLabel_iff {b : String} {mean : Double} :
    Compares (meanLabel metric (ExeSummary.referenceOf b rows) mean) ↔
      ∃ s, Stats.ofValues (valuesOf rows b) = some s ∧ (s.mean / mean - 1).isFinite = true := by
  rw [meanLabel, compares_iff, ExeSummary.referenceOf, ← valuesOf_eq]
  cases Stats.ofValues (valuesOf rows b) with
  | none => simp [ExeSummary.gainOver, isFinite_undefined]
  | some s => simp [ExeSummary.gainOver]

/-- A line and a note are in a box plot exactly if a baseline is named and has a value, and labels
tell distances only from an executable that has a value and the baseline's name. Without a baseline
there is neither a line nor a note, but distances from an executable with an empty name. -/
theorem box_marksBaseline (metric : Metric) (bench : String) (rows : List Observation)
    (baseline : Option String) :
    ∀ chart ∈ box? metric bench rows baseline, MarksBaseline metric rows baseline chart := by
  intro chart drawn
  obtain ⟨single, ungrouped, line, label, traces, labelled⟩ := spec_of_box? drawn
  have shape := shapes?_plot single ungrouped
  have note := annotations?_plot single ungrouped
  rw [line] at shape note
  have texts : labels chart.plot = (points chart).map fun p =>
      meanLabel metric (ExeSummary.referenceOf (baseline.getD "") rows) p.mean := by
    rw [labels_plot traces]
    refine List.map_congr_left fun p hp => ?_
    obtain ⟨exe, _, s, values, rfl⟩ := (mem_points_iff traces).mp hp
    exact labelled exe s values
  refine ⟨shape, note, ?_, ?_, fun exe mean => ?_, texts, fun mean => compares_meanLabel_iff, ?_⟩
  · rw [shape, Option.isSome_map, isSome_lineOf?_iff]
  · rw [note, Option.isSome_map, isSome_lineOf?_iff]
  · rw [Option.map_eq_some_iff]
    constructor
    · rintro ⟨p, hp, rfl, rfl⟩
      obtain ⟨exe, _, s, values, rfl⟩ := (mem_points_iff traces).mp hp
      exact ⟨s, values, rfl⟩
    · rintro ⟨s, values, rfl⟩
      have observed := isSome_ofValues_valuesOf_iff.mp (Option.isSome_of_mem values)
      have listed : exe ∈ (ExeSummary.ofRows (baseline.getD "") rows).map (·.exe) :=
        ExeSummary.mem_map_exe_ofRows_iff.mpr observed
      exact ⟨_, (mem_points_iff traces).mpr ⟨exe, listed, s, values, rfl⟩, rfl, rfl⟩
  · rintro ⟨text, member, compares⟩
    rw [texts] at member
    obtain ⟨p, _, rfl⟩ := List.mem_map.mp member
    obtain ⟨s, values, _⟩ := compares_meanLabel_iff.mp compares
    exact isSome_ofValues_valuesOf_iff.mp (Option.isSome_of_mem values)

/-- No baseline is named, but an executable has an empty name, and the label of the other one tells
a distance from it. -/
theorem box_marksBaseline_unnamed :
    let row (exe : String) (value : Double) : Observation :=
      ⟨"A", exe, "s", "total", "ms", "1", some value, none, none, none⟩
    let rows := [row "" 2, row "x" 4]
    ∃ chart ∈ box? Metric.time "A" rows none,
      (shapes? chart.plot).isSome = false ∧ (annotations? chart.plot).isSome = false ∧
      Compares "4.00 ms (-50.0% vs base)" ∧ "4.00 ms (-50.0% vs base)" ∈ labels chart.plot := by
  intro row rows
  obtain ⟨chart, drawn⟩ := Option.isSome_iff_exists.mp
    (isSome_box?_iff.mpr ⟨row "" 2, List.mem_cons_self, rfl⟩ :
      (box? Metric.time "A" rows none).isSome = true)
  have marks := box_marksBaseline Metric.time "A" rows none chart drawn
  have unnamed : ¬ ∃ b, (none : Option String) = some b ∧ Observed rows b := by
    rintro ⟨_, named, _⟩
    cases named
  refine ⟨chart, drawn, Bool.eq_false_iff.mpr (mt marks.line_iff.mp unnamed),
    Bool.eq_false_iff.mpr (mt marks.note_iff.mp unnamed), by decide, ?_⟩
  obtain ⟨p, hp, -, mean⟩ := (marks.marked "x" 4).mpr (by decide +kernel)
  have text : meanLabel Metric.time (ExeSummary.referenceOf "" rows) 4 =
      "4.00 ms (-50.0% vs base)" := by decide +kernel
  rw [marks.label, ← text, ← mean]
  exact List.mem_map_of_mem hp

end Chart

end Speedup
