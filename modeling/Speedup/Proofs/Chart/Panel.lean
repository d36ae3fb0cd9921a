import Speedup.Proofs.Chart.Plots
import Speedup.Proofs.Grouping.Partition
import Speedup.Proofs.Report.Statistics

/-!
# What a panel shows

A panel has a plot for every metric with data, and all plots list their executables in one order,
which is taken from the slice of a single metric. Executables without a value in that slice have no
place in the order. They are missing from all plots, even from those of metrics they have values
for; any other executable has a box and a marker wherever it has values (`panel_draws`).
-/

namespace Speedup

open Grouping

variable {rows : List Observation} {exe : String}

/-! ## The order of executables -/

namespace ExeSummary

theorem exesByMean_perm (rows : List Observation) :
    (exesByMean rows).Perm (values (·.exe) rows).keys := by
  rw [← keys_means]
  exact (List.mergeSort_perm _ _).map _

theorem nodup_exesByMean (rows : List Observation) : (exesByMean rows).Nodup :=
  (exesByMean_perm rows).nodup_iff.mpr (values (·.exe) rows).ascending.nodup

theorem mem_exesByMean_iff : exe ∈ exesByMean rows ↔ Chart.valuesOf rows exe ≠ [] := by
  rw [(exesByMean_perm rows).mem_iff, mem_keys_values_iff, Chart.valuesOf_eq]

end ExeSummary

namespace Chart

variable {bench : String} {slices : List Slice} {chart : Chart} {exes : List String}

/-! ## What it means to be drawn -/

/-- What some traces show of an executable with given values: one box that holds them and one
marker at their mean, or neither if there are no values. -/
structure Draws (traces : List Trace) (exe : String) (values : List Double) : Prop where
  box : (traces.filterMap boxOf?).filter (fun b => b.1 = exe) =
    (someValues values).toList.map fun values => (exe, values)
  marker : ((traces.flatMap markersOf).filter fun p => p.exe = exe).map (·.mean) =
    (Stats.ofValues values).toList.map (·.mean)

theorem filterMap_boxTraces (metric : Metric) (rows : List Observation) (exes : List String)
    (label : String → Double → String) :
    (boxTraces metric rows exes label).filterMap boxOf? =
      (boxesOf rows exes.reverse).map fun (exe, values, _) => (exe, values) := by
  simp [boxTraces, List.filterMap_append, List.filterMap_map, Function.comp_def, boxOf?]

theorem flatMap_boxTraces (metric : Metric) (rows : List Observation) (exes : List String)
    (label : String → Double → String) :
    (boxTraces metric rows exes label).flatMap markersOf =
      (boxesOf rows exes.reverse).map fun (exe, _, s) =>
        { exe, mean := s.mean, label := label exe s.mean
          hover := exe ++ ": mean " ++ (Quantity.ofValue s.mean metric.unit).humanize } := by
  simp [boxTraces, List.flatMap_append, List.flatMap_map, markersOf]

theorem filter_boxesOf_of_notMem (absent : exe ∉ exes) :
    (boxesOf rows exes).filter (fun b => b.1 = exe) = [] := by
  rw [List.filter_eq_nil_iff]
  intro b hb
  obtain ⟨x, hx, found⟩ := List.mem_filterMap.mp hb
  obtain ⟨s, _, rfl⟩ := Option.map_eq_some_iff.mp found
  have other : x ≠ exe := fun same => absent (same ▸ hx)
  simpa using other

theorem draws_boxTraces {values : List Double} {metric : Metric}
    {label : String → Double → String}
    (own : (boxesOf rows exes.reverse).filter (fun b => b.1 = exe) =
      ((Stats.ofValues values).map fun s => (exe, values, s)).toList) :
    Draws (boxTraces metric rows exes label) exe values where
  box := by
    rw [filterMap_boxTraces, List.filter_map]
    show (List.filter (fun b : String × List Double × Stats => b.1 = exe) _).map _ = _
    rw [own, someValues_eq]
    cases Stats.ofValues values <;> rfl
  marker := by
    rw [flatMap_boxTraces, List.filter_map]
    show ((List.filter (fun b : String × List Double × Stats => b.1 = exe) _).map _).map _ = _
    rw [own]
    cases Stats.ofValues values <;> rfl

/-! ## The plots of a panel -/

/-- The slices that have a plot in a panel. -/
def plottedSlices (slices : List Slice) : List Slice := (shownSlices slices).take maxPlots

/-- The plots are drawn for the slices, all with the executables of one of them. -/
theorem inPlot_panel? (h : panel? bench slices = some chart) :
    ∃ ordering ∈ orderSlice? (plottedSlices slices), ∀ i, chart.inPlot i =
      ((plottedSlices slices)[i]?.map fun (m, rows) =>
        boxTraces m rows (ExeSummary.exesByMean ordering.2) fun _ mean => m.display mean).getD [] := by
  unfold panel? at h
  simp only [Option.bind_eq_bind, Option.bind_eq_some_iff] at h
  obtain ⟨ordering, found, whole⟩ := h
  refine ⟨ordering, found, inPlot_eq_of_zipIdx _ ?_⟩
  cases whole
  rfl

/-- In every plot of a panel, an executable with a value in the slice that gives the order has one
box, which holds its values in that plot's slice, and one marker, if there are any. Any other
executable is not drawn at all. -/
theorem panel_draws (bench : String) (slices : List Slice) :
    ∀ chart ∈ panel? bench slices, ∃ ordering ∈ orderSlice? (plottedSlices slices),
      ∀ i metric rows, (plottedSlices slices)[i]? = some (metric, rows) → ∀ exe,
        (valuesOf ordering.2 exe ≠ [] → Draws (chart.inPlot i) exe (valuesOf rows exe)) ∧
        (valuesOf ordering.2 exe = [] → Draws (chart.inPlot i) exe []) := by
  intro chart h
  obtain ⟨ordering, found, plots⟩ := inPlot_panel? h
  refine ⟨ordering, found, fun i metric rows shown exe => ?_⟩
  rw [plots i, shown, Option.map_some, Option.getD_some]
  constructor
  · intro ordered
    refine draws_boxTraces (filter_boxesOf ?_ fun _ => ?_)
    · exact List.nodup_reverse.mpr (ExeSummary.nodup_exesByMean ordering.2)
    · exact List.mem_reverse.mpr (ExeSummary.mem_exesByMean_iff.mpr ordered)
  · intro nothing
    have absent : exe ∉ (ExeSummary.exesByMean ordering.2).reverse := by
      rw [List.mem_reverse, ExeSummary.mem_exesByMean_iff, not_not]
      exact nothing
    exact draws_boxTraces (filter_boxesOf_of_notMem absent)

/-- Both executables have values for the second metric, but only `X` has one for the time. -/
theorem panel_draws_two :
    let row (exe : String) (value : Option Double) : Observation :=
      ⟨"A", exe, "s", "total", "ms", "1", value, none, none, none⟩
    let slices : List Slice := [(Metric.time, [row "X" (some 1), row "Y" none]),
      (Metric.bytes, [row "X" (some 2), row "Y" (some 3), row "X" none, row "X" (some 1)])]
    ∃ chart ∈ panel? "A" slices,
      Draws (chart.inPlot 0) "X" [1] ∧ Draws (chart.inPlot 1) "X" [2, 1] ∧
      valuesOf (slices[1]).2 "Y" = [3] ∧ Draws (chart.inPlot 1) "Y" [] := by
  intro row slices
  obtain ⟨chart, drawn⟩ := Option.isSome_iff_exists.mp
    (by decide +kernel : (panel? "A" slices).isSome = true)
  obtain ⟨ordering, found, plots⟩ := panel_draws "A" slices chart drawn
  have time : orderSlice? (plottedSlices slices) = slices[0] := by decide +kernel
  cases Option.some.inj (found.symm.trans time)
  have first : (plottedSlices slices)[0]? = some slices[0] := by decide +kernel
  have second : (plottedSlices slices)[1]? = some slices[1] := by decide +kernel
  refine ⟨chart, drawn, ?_, ?_, ?_, ?_⟩
  · exact (plots 0 _ _ first "X").1 (by decide +kernel)
  · exact (plots 1 _ _ second "X").1 (by decide +kernel)
  · decide +kernel
  · exact (plots 1 _ _ second "Y").2 (by decide +kernel)

end Chart

end Speedup
