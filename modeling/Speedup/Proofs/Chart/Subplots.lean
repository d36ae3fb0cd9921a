import Speedup.Chart.Plot
import Speedup.Proofs.Chart.Panel
import Speedup.Proofs.Text.Digits

/-!
# Axes of several plots

The document of a chart names axes in two places: a trace refers to its axes as `x3` and `y3`, and
the layout describes them as `xaxis3` and `yaxis3`. Both names are made from the number of the plot,
and different numbers have different names (`number_injective`). So where a chart is drawn for some
things in their order, each of them has the pair of axes of its place, the traces that refer to this
pair are the ones of this thing, and no trace refers to axes that are not described (`Subplots`).
Panels and dashboards are drawn that way for the first eight metrics (`subplots_wellFormed`).
-/

namespace Speedup

def Json.field? (name : String) : Json → Option Json
  | .object fields => fields.lookup name
  | _ => none

namespace Chart

/-! ## What a document says of axes -/

/-- The field of a layout that describes the axis with the given name. -/
def describing (name : String) : String :=
  match name.toList with
  | [] => ""
  | letter :: number => String.ofList (letter :: "axis".toList ++ number)

def axis? (document : Json) (name : String) : Option Json :=
  (document.field? "layout").bind (·.field? (describing name))

def grid? (document : Json) : Option Json := (document.field? "layout").bind (·.field? "grid")

def tracesOf (document : Json) : List Json :=
  match document.field? "data" with
  | some (.array traces) => traces
  | _ => []

def references? (trace : Json) : Option (String × String) :=
  match trace.field? "xaxis", trace.field? "yaxis" with
  | some (.string x), some (.string y) => some (x, y)
  | _, _ => none

def axisIds (plot : Nat) : String × String := (axisId "x" plot, axisId "y" plot)

variable {α : Type}

/-- What it means that a document has a plot for each of some things, in their order. -/
structure Subplots (document : Json) (shown : List α) (axes : α → Axis × Axis)
    (draw : α → List Trace) : Prop where
  /-- A pair of axes is described for every thing, and no further one. -/
  x_axis : ∀ i, axis? document (axisId "x" i) = shown[i]?.map fun a => axisJson (axes a).1
  y_axis : ∀ i, axis? document (axisId "y" i) = shown[i]?.map fun a => axisJson (axes a).2
  /-- Every trace refers to one of these pairs. -/
  refers : ∀ trace ∈ tracesOf document,
    ∃ i < shown.length, references? trace = some (axisIds i)
  /-- The traces that refer to a pair are those of the thing that has the pair. -/
  own : ∀ i, (tracesOf document).filter (fun trace => references? trace = some (axisIds i)) =
    ((shown[i]?.map draw).getD []).map fun t => .object (traceFields i t)
  drawn : ∀ a ∈ shown, draw a ≠ []
  /-- The grid has a place for every plot and a plot in its last row. -/
  grid : ∃ g, grid? document = some (gridJson g) ∧ shown.length ≤ g.rows * g.columns ∧
    (g.rows - 1) * g.columns < shown.length

/-! ## Names of axes -/

section Names

variable {letter name : String} {i j : Nat}

/-- What the names of axes have behind their letters. -/
def number (plot : Nat) : List Char := if plot = 0 then [] else Text.digits (plot + 1)

theorem number_injective (h : number i = number j) : i = j := by
  unfold number at h
  split at h <;> split at h
  next first first' => rw [first, first']
  · exact absurd h.symm (Text.digits_ne_nil _)
  · exact absurd h (Text.digits_ne_nil _)
  · have same := congrArg (Text.digitsValue 0) h
    rw [Text.digitsValue_digits, Text.digitsValue_digits] at same
    exact Nat.succ.inj same

theorem toList_axisId (letter : String) (i : Nat) :
    (axisId letter i).toList = letter.toList ++ number i := by
  unfold axisId number
  split
  · exact (List.append_nil _).symm
  · rw [String.toList_append, Nat.toList_repr, Text.digits]

theorem toList_axisField (letter : String) (i : Nat) :
    (axisField letter i).toList = letter.toList ++ "axis".toList ++ number i := by
  unfold axisField number
  split
  · rw [String.append_empty, String.toList_append, List.append_nil]
  · rw [String.toList_append, String.toList_append, Nat.toList_repr, Text.digits]

theorem axisId_injective (h : axisId letter i = axisId letter j) : i = j := by
  have chars := congrArg String.toList h
  rw [toList_axisId, toList_axisId] at chars
  exact number_injective (List.append_cancel_left chars)

theorem axisField_injective (h : axisField letter i = axisField letter j) : i = j := by
  have chars := congrArg String.toList h
  rw [toList_axisField, toList_axisField] at chars
  exact number_injective (List.append_cancel_left chars)

theorem axisIds_injective (h : axisIds i = axisIds j) : i = j :=
  axisId_injective (Prod.mk.inj h).1

theorem axisField_ne (other : ¬ letter.toList ++ "axis".toList <+: name.toList) :
    axisField letter i ≠ name := by
  rintro rfl
  rw [toList_axisField] at other
  exact other (List.prefix_append _ _)

theorem axisField_x_ne_y : axisField "x" i ≠ axisField "y" j := by
  intro same
  have chars := congrArg String.toList same
  rw [toList_axisField, toList_axisField] at chars
  simp at chars

theorem describing_axisId {c : Char} (single : letter.toList = [c]) (i : Nat) :
    describing (axisId letter i) = axisField letter i := by
  have chars := toList_axisId letter i
  rw [single, List.singleton_append] at chars
  rw [describing, chars]
  dsimp only
  rw [← String.ofList_toList (s := axisField letter i), toList_axisField, single]
  rfl

end Names

/-! ## Fields of the layout -/

section Layout

variable {entries : Nat → α → List (String × Json)} (key : Nat → String)

theorem lookup_flatMap_zipIdx_of_lt
    (apart : ∀ i j a, i ≠ j → (entries i a).lookup (key j) = none) (xs : List α) {k j : Nat}
    (h : j < k) : ((xs.zipIdx k).flatMap fun (a, i) => entries i a).lookup (key j) = none := by
  induction xs generalizing k with
  | nil => rfl
  | cons a rest ih =>
      rw [List.zipIdx_cons, List.flatMap_cons, List.lookup_append, apart k j a (by omega),
        ih (by omega)]
      rfl

/-- The fields of one number are found among those of all numbers. -/
theorem lookup_flatMap_zipIdx
    (apart : ∀ i j a, i ≠ j → (entries i a).lookup (key j) = none) (xs : List α) (k i : Nat) :
    ((xs.zipIdx k).flatMap fun (a, i) => entries i a).lookup (key (k + i)) =
      xs[i]?.bind fun a => (entries (k + i) a).lookup (key (k + i)) := by
  induction xs generalizing k i with
  | nil => rfl
  | cons a rest ih =>
      rw [List.zipIdx_cons, List.flatMap_cons, List.lookup_append]
      cases i with
      | zero =>
          rw [Nat.add_zero, lookup_flatMap_zipIdx_of_lt key apart rest (Nat.lt_succ_self k),
            Option.or_none]
          rfl
      | succ i =>
          have next := ih (k + 1) i
          rw [show k + 1 + i = k + (i + 1) by omega] at next
          rw [apart k (k + (i + 1)) a (by omega), next, Option.none_or, List.getElem?_cons_succ]

theorem lookup_cons_of_ne {name other : String} {value : Json} {fields : List (String × Json)}
    (h : name ≠ other) : ((other, value) :: fields).lookup name = fields.lookup name := by
  rw [List.lookup_cons, beq_false_of_ne h]

def axisPair (i : Nat) (a : Axis × Axis) : List (String × Json) :=
  [(axisField "x" i, axisJson a.1), (axisField "y" i, axisJson a.2)]

/-- The field of an axis is among those of its own plot only. -/
def Picks (letter : String) (pick : Axis × Axis → Axis) : Prop :=
  ∀ i j a, (axisPair i a).lookup (axisField letter j) =
    if i = j then some (axisJson (pick a)) else none

theorem picks_x : Picks "x" Prod.fst := by
  intro i j a
  split
  next same =>
    rw [same]
    exact List.lookup_cons_self
  next other =>
    rw [axisPair, lookup_cons_of_ne fun same => other (axisField_injective same).symm,
      lookup_cons_of_ne axisField_x_ne_y, List.lookup_nil]

theorem picks_y : Picks "y" Prod.snd := by
  intro i j a
  rw [axisPair, lookup_cons_of_ne axisField_x_ne_y.symm]
  split
  next same =>
    rw [same]
    exact List.lookup_cons_self
  next other =>
    rw [lookup_cons_of_ne fun same => other (axisField_injective same).symm, List.lookup_nil]

theorem lookup_axisFields {letter : String} {pick : Axis × Axis → Axis}
    (picks : Picks letter pick) (axes : List (Axis × Axis)) (i : Nat) :
    (axisFields axes).lookup (axisField letter i) =
      (axes.take maxAxes)[i]?.map fun a => axisJson (pick a) := by
  have apart : ∀ i j a, i ≠ j → (axisPair i a).lookup (axisField letter j) = none := by
    intro i j a other
    rw [picks, if_neg other]
  have found := lookup_flatMap_zipIdx (axisField letter) apart (axes.take maxAxes) 0 i
  rw [Nat.zero_add] at found
  refine found.trans ?_
  cases (axes.take maxAxes)[i]? with
  | none => rfl
  | some a => rw [Option.bind_some, picks, if_pos rfl, Option.map_some]

/-- The names of the fields of a layout beside those of axes. -/
def otherFields : List String :=
  ["title", "height", "showlegend", "grid", "barmode", "shapes", "annotations"]

theorem axisField_notMem_otherFields {letter : String} (axis : letter = "x" ∨ letter = "y")
    (i : Nat) : axisField letter i ∉ otherFields := by
  intro mem
  have start : ∀ name ∈ otherFields,
      ¬ "x".toList ++ "axis".toList <+: name.toList ∧
        ¬ "y".toList ++ "axis".toList <+: name.toList := by decide
  rcases axis with rfl | rfl
  · exact axisField_ne (start _ mem).1 rfl
  · exact axisField_ne (start _ mem).2 rfl

/-- Among all fields of a layout, an axis is found where it is found among the axes. -/
theorem field?_layout (c : Chart) {letter : String} (axis : letter = "x" ∨ letter = "y") (i : Nat) :
    c.layout.field? (axisField letter i) = (axisFields c.axes).lookup (axisField letter i) := by
  have nothing {fields : List (String × Json)} (names : fields.map (·.1) ⊆ otherFields) :
      fields.lookup (axisField letter i) = none := by
    rw [List.lookup_eq_none_iff]
    intro f hf
    have listed := names (List.mem_map_of_mem hf)
    have other : axisField letter i ≠ f.1 := by
      intro same
      exact axisField_notMem_otherFields axis i (same ▸ listed)
    exact bne_iff_ne.mpr other
  have front : [("title", Json.titled c.heading), ("height", .integer c.height)].lookup
      (axisField letter i) = none := nothing (by simp [otherFields])
  have legend : (if c.legend then [] else [noLegend]).lookup (axisField letter i) = none :=
    nothing (by cases c.legend <;> simp [otherFields, noLegend])
  have grid : (c.grid.map fun g => ("grid", gridJson g)).toList.lookup (axisField letter i) =
      none := nothing (by cases c.grid <;> simp [otherFields])
  have mode : (if c.grouped then [("barmode", Json.string "group")] else []).lookup
      (axisField letter i) = none := nothing (by cases c.grouped <;> simp [otherFields])
  rw [layout, Json.field?]
  simp only [List.lookup_append, front, legend, grid, mode, Option.none_or]
  cases c.baselineLine with
  | none => exact Option.or_none
  | some line =>
      have back : [("shapes", Json.array [lineShape line]),
          ("annotations", .array [lineLabel line])].lookup (axisField letter i) = none :=
        nothing (by simp [otherFields])
      show Option.or _ (List.lookup _ [_, _]) = _
      rw [back, Option.or_none]

/-- The axes of the first plots are described in the document, and no other ones. -/
theorem axis?_plot (c : Chart) {letter : String} {pick : Axis × Axis → Axis}
    (axis : letter = "x" ∨ letter = "y") (picks : Picks letter pick) (i : Nat) :
    axis? c.plot (axisId letter i) =
      (c.axes.take maxAxes)[i]?.map fun a => axisJson (pick a) := by
  have name : describing (axisId letter i) = axisField letter i := by
    rcases axis with rfl | rfl
    · exact describing_axisId rfl i
    · exact describing_axisId rfl i
  rw [axis?, name, ← lookup_axisFields picks, ← field?_layout c axis]
  rfl

end Layout

/-! ## Traces -/

/-- A trace is one that refers to the axes of its plot. -/
def Placed : Trace → Prop
  | .columns .. => False
  | _ => True

theorem references?_traceFields {t : Trace} (placed : Placed t) (i : Nat) :
    references? (.object (traceFields i t)) = some (axisIds i) := by
  cases t with
  | columns => exact placed.elim
  | bars name => cases name <;> rfl
  | box => rfl
  | means => rfl
  | labels => rfl
  | remark => rfl

theorem placed_boxTraces {metric : Metric} {rows : List Observation} {exes : List String}
    {label : String → Double → String} : ∀ t ∈ boxTraces metric rows exes label, Placed t := by
  intro t ht
  rcases List.mem_append.mp ht with box | means
  · obtain ⟨b, _, rfl⟩ := List.mem_map.mp box
    trivial
  · cases List.mem_singleton.mp means
    trivial

section Drawn

variable {c : Chart} {shown : List α} {axes : α → Axis × Axis} {draw : α → List Trace}

theorem placed_of_mem_traces
    (traces : c.traces = shown.zipIdx.flatMap fun (a, i) => (draw a).map fun t => (i, t))
    (placed : ∀ a ∈ shown, ∀ t ∈ draw a, Placed t) :
    ∀ p ∈ c.traces, p.1 < shown.length ∧ Placed p.2 := by
  intro p hp
  rw [traces] at hp
  obtain ⟨⟨a, i⟩, ha, drawn⟩ := List.mem_flatMap.mp hp
  obtain ⟨t, ht, rfl⟩ := List.mem_map.mp drawn
  obtain ⟨less, place⟩ := List.mem_zipIdx' ha
  exact ⟨less, placed a (place ▸ List.getElem_mem less) t ht⟩

/-- The traces that refer to the axes of a plot are those in the plot. -/
theorem filter_tracesOf_plot (placed : ∀ p ∈ c.traces, Placed p.2) (i : Nat) :
    (tracesOf c.plot).filter (fun trace => references? trace = some (axisIds i)) =
      (c.inPlot i).map fun t => .object (traceFields i t) := by
  show (c.traces.map fun p => Json.object (traceFields p.1 p.2)).filter _ = _
  have same_plot : ∀ p ∈ c.traces,
      decide (references? (.object (traceFields p.1 p.2)) = some (axisIds i)) =
        decide (p.1 = i) := by
    intro p hp
    rw [decide_eq_decide, references?_traceFields (placed p hp), Option.some_inj]
    exact ⟨axisIds_injective, congrArg axisIds⟩
  rw [List.filter_map]
  calc (c.traces.filter _).map (fun p => Json.object (traceFields p.1 p.2))
      = (c.traces.filter (·.1 = i)).map fun p => .object (traceFields p.1 p.2) :=
        congrArg _ (List.filter_congr same_plot)
    _ = (c.traces.filter (·.1 = i)).map fun p => .object (traceFields i p.2) := by
        refine List.map_congr_left fun p hp => ?_
        rw [of_decide_eq_true (List.mem_filter.mp hp).2]
    _ = _ := by rw [inPlot, List.map_map]; rfl

/-- A chart that is drawn for some things, one plot for each, has plots with axes of their own. -/
theorem subplots_of_zipIdx {g : Grid} (few : shown.length ≤ maxAxes)
    (pairs : c.axes = shown.map axes)
    (traces : c.traces = shown.zipIdx.flatMap fun (a, i) => (draw a).map fun t => (i, t))
    (placed : ∀ a ∈ shown, ∀ t ∈ draw a, Placed t) (drawn : ∀ a ∈ shown, draw a ≠ [])
    (no_legend : c.legend = false) (grid : c.grid = some g)
    (room : shown.length ≤ g.rows * g.columns) (full : (g.rows - 1) * g.columns < shown.length) :
    Subplots c.plot shown axes draw where
  x_axis i := by
    rw [axis?_plot c (.inl rfl) picks_x, pairs, ← List.map_take, List.take_of_length_le few,
      List.getElem?_map, Option.map_map]
    rfl
  y_axis i := by
    rw [axis?_plot c (.inr rfl) picks_y, pairs, ← List.map_take, List.take_of_length_le few,
      List.getElem?_map, Option.map_map]
    rfl
  refers := by
    intro trace ht
    obtain ⟨p, hp, rfl⟩ := List.mem_map.mp ht
    obtain ⟨less, place⟩ := placed_of_mem_traces traces placed p hp
    exact ⟨p.1, less, references?_traceFields place p.1⟩
  own i := by
    rw [filter_tracesOf_plot (fun p hp => (placed_of_mem_traces traces placed p hp).2),
      inPlot_eq_of_zipIdx draw traces]
  drawn := drawn
  grid := by
    refine ⟨g, ?_, room, full⟩
    show c.layout.field? "grid" = _
    rw [layout, no_legend, grid]
    rfl

end Drawn

/-! ## Panels and dashboards -/

/-- What it means that a log warns of things left out, where there is room for only some. -/
structure WarnsBeyond (log : List Log.Entry) (room count : Nat) : Prop where
  once : log.length = if room < count then 1 else 0
  warning : ∀ e ∈ log, e.level = .warn

theorem warnsBeyond {room count : Nat} {e : Log.Entry} (level : e.level = .warn) :
    WarnsBeyond (if room < count then [e] else []) room count := by
  split
  next beyond =>
    exact ⟨(if_pos beyond).symm, fun x hx => (List.mem_singleton.mp hx) ▸ level⟩
  next within => exact ⟨(if_neg within).symm, by simp⟩

def panelAxes (metric : Metric) : Axis × Axis :=
  (titledAxis (metric.title ++ " | " ++ metric.label), plainAxis)

/-- Plots in columns fill all rows but perhaps the last one, which has at least one of them. -/
theorem rows_of_columns {count : Nat} (columns : Nat) (some_column : 0 < columns)
    (some_plot : 0 < count) :
    count ≤ (count + columns - 1) / columns * columns ∧
      ((count + columns - 1) / columns - 1) * columns < count := by
  have split := Nat.div_add_mod' (count + columns - 1) columns
  have less := Nat.mod_lt (count + columns - 1) some_column
  have before := Nat.sub_one_mul ((count + columns - 1) / columns) columns
  omega

/-- A panel has a plot for each of the first metrics with data. -/
theorem subplots_panel? {bench : String} {slices : List Slice} {chart : Chart}
    (h : panel? bench slices = some chart) :
    ∃ ordering ∈ orderSlice? (plottedSlices slices),
      Subplots chart.plot (plottedSlices slices) (fun s => panelAxes s.1) fun s =>
        boxTraces s.1 s.2 (ExeSummary.exesByMean ordering.2) fun _ mean => s.1.display mean := by
  unfold panel? at h
  simp only [Option.bind_eq_bind, Option.bind_eq_some_iff] at h
  obtain ⟨ordering, found, whole⟩ := h
  have some_plot : 0 < (plottedSlices slices).length := by
    rw [List.length_pos_iff]
    intro none
    rw [plottedSlices] at none
    rw [none] at found
    cases found
  have rows := rows_of_columns (if 1 < (plottedSlices slices).length then 2 else 1)
    (by split <;> decide) some_plot
  refine ⟨ordering, found, ?_⟩
  cases whole
  refine subplots_of_zipIdx (List.length_take_le _ _) rfl rfl ?_ ?_ rfl rfl rows.1 rows.2
  · exact fun s _ => placed_boxTraces
  · exact fun s _ => List.append_ne_nil_of_right_ne_nil _ (List.cons_ne_nil _ _)

theorem placed_dashboardTrace (metric : Metric) (comparison : Option Comparison) :
    Placed (dashboardTrace metric comparison) := by
  cases comparison <;> trivial

/-- A dashboard has a plot for each of the first metrics. -/
theorem subplots_dashboard {metrics : List (Metric × Option Comparison)} (h : metrics ≠ []) :
    Subplots (dashboard metrics).plot (metrics.take maxPlots) (fun m => dashboardAxes m.1 m.2)
      fun m => [dashboardTrace m.1 m.2] := by
  have some_plot : 0 < (metrics.take maxPlots).length := by
    rw [List.length_take, Nat.lt_min]
    exact ⟨by decide, List.length_pos_iff.mpr h⟩
  have height : max (metrics.take maxPlots).length 1 = (metrics.take maxPlots).length :=
    Nat.max_eq_left some_plot
  have traces : (dashboard metrics).traces = (metrics.take maxPlots).zipIdx.flatMap fun (m, i) =>
      [dashboardTrace m.1 m.2].map fun t => (i, t) := List.map_eq_flatMap
  refine subplots_of_zipIdx (List.length_take_le _ _) rfl traces ?_ ?_ rfl rfl ?_ ?_
  · intro m _ t ht
    cases List.mem_singleton.mp ht
    exact placed_dashboardTrace m.1 m.2
  · exact fun m _ => List.cons_ne_nil _ _
  · show _ ≤ max _ 1 * 1
    omega
  · show (max _ 1 - 1) * 1 < _
    omega

/-- A panel shows the first eight of the metrics with data and a dashboard the first eight of all
metrics, each in a plot of its own, and only where there are more a warning is logged. -/
theorem subplots_wellFormed :
    (∀ bench slices, let withData := slices.filter fun s => s.2.any (·.value.isSome)
      (∀ chart ∈ panel? bench slices, ∃ ordering ∈ orderSlice? (withData.take 8),
        Subplots chart.plot (withData.take 8) (fun s => panelAxes s.1) fun s =>
          boxTraces s.1 s.2 (ExeSummary.exesByMean ordering.2) fun _ mean => s.1.display mean) ∧
      WarnsBeyond (panelLog bench slices) 8 withData.length) ∧
    ∀ metrics ≠ [],
      Subplots (dashboard metrics).plot (metrics.take 8) (fun m => dashboardAxes m.1 m.2)
        (fun m => [dashboardTrace m.1 m.2]) ∧
      WarnsBeyond (dashboardLog metrics) 8 metrics.length := by
  refine ⟨fun bench slices => ⟨fun chart h => subplots_panel? h, warnsBeyond rfl⟩, ?_⟩
  exact fun metrics h => ⟨subplots_dashboard h, warnsBeyond rfl⟩

/-- The middle one of three metrics has no data, so the panel has two plots, and the dashboard of
nine metrics leaves out the last one. -/
theorem subplots_wellFormed_two_eight :
    let row (value : Option Double) : Observation :=
      ⟨"A", "X", "s", "total", "ms", "1", value, none, none, none⟩
    let slices : List Slice := [(Metric.time, [row (some 1)]), (Metric.bytes, [row none]),
      (Metric.bytes, [row none, row (some 2)])]
    let metrics := List.replicate 9 (Metric.time, (none : Option Comparison))
    (∃ chart ∈ panel? "A" slices,
      axis? chart.plot "x2" = some (axisJson (panelAxes Metric.bytes).1) ∧
      axis? chart.plot "x3" = none ∧ panelLog "A" slices = []) ∧
    axis? (dashboard metrics).plot "y8" = some (axisJson .hidden) ∧
    axis? (dashboard metrics).plot "y9" = none ∧ (dashboardLog metrics).length = 1 := by
  intro row slices metrics
  obtain ⟨panels, dashboards⟩ := subplots_wellFormed
  refine ⟨?_, ?_⟩
  · obtain ⟨chart, drawn⟩ := Option.isSome_iff_exists.mp
      (by decide +kernel : (panel? "A" slices).isSome = true)
    obtain ⟨plots, log⟩ := panels "A" slices
    obtain ⟨ordering, _, plots⟩ := plots chart drawn
    exact ⟨chart, drawn, plots.x_axis 1, plots.x_axis 2, List.length_eq_zero_iff.mp log.once⟩
  · obtain ⟨plots, log⟩ := dashboards metrics (by simp [metrics])
    exact ⟨plots.y_axis 7, plots.y_axis 8, log.once⟩

end Chart

end Speedup
