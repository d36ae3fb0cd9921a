import Speedup.Chart.Bars
import Speedup.Chart.Boxes

/-!
# What is drawn in a plot

A chart lists its traces with the numbers of their plots. A chart of several things has one plot
for each, in their order, and then a plot holds what is drawn of its thing and nothing else
(`inPlot_eq_of_zipIdx`).
-/

namespace Speedup.Chart

/-- What is drawn in one of the plots. -/
def inPlot (chart : Chart) (i : Nat) : List Trace := (chart.traces.filter (·.1 = i)).map (·.2)

def barsOf : Trace → List RankBar
  | .bars _ bars => bars
  | _ => []

def labelsOf : Trace → List RankBar
  | .labels labels => labels
  | _ => []

def boxOf? : Trace → Option (String × List Double)
  | .box exe values => some (exe, values)
  | _ => none

def markersOf : Trace → List MeanPoint
  | .means points => points
  | _ => []

/-- Traces that are drawn for the elements of a list, the first of which has plot `k`. -/
theorem filter_zipIdx_flatMap {α : Type} (draw : α → List Trace) (xs : List α) (k i : Nat) :
    ((xs.zipIdx k).flatMap fun (x, plot) => (draw x).map fun t => (plot, t)).filter
        (fun p => p.1 = k + i) =
      ((xs[i]?.map draw).getD []).map fun t => (k + i, t) := by
  induction xs generalizing k i with
  | nil => simp
  | cons x rest ih =>
      rw [List.zipIdx_cons, List.flatMap_cons, List.filter_append]
      cases i with
      | zero =>
          have first : ((draw x).map fun t => (k, t)).filter (fun p => p.1 = k + 0) =
              (draw x).map fun t => (k, t) := List.filter_eq_self.mpr (by simp)
          have later : ((rest.zipIdx (k + 1)).flatMap fun (x, plot) =>
              (draw x).map fun t => (plot, t)).filter (fun p => p.1 = k + 0) = [] := by
            rw [List.filter_eq_nil_iff]
            intro p hp
            obtain ⟨⟨y, plot⟩, hy, ht⟩ := List.mem_flatMap.mp hp
            obtain ⟨t, _, rfl⟩ := List.mem_map.mp ht
            have from_next := List.le_snd_of_mem_zipIdx hy
            simp only [decide_eq_true_eq]
            omega
          rw [first, later, List.append_nil]
          rfl
      | succ i =>
          have first : ((draw x).map fun t => (k, t)).filter (fun p => p.1 = k + (i + 1)) = [] :=
            List.filter_eq_nil_iff.mpr (by simp)
          have next := ih (k + 1) i
          rw [show k + 1 + i = k + (i + 1) by omega] at next
          rw [first, next, List.nil_append, List.getElem?_cons_succ]

theorem inPlot_eq_of_zipIdx {α : Type} {chart : Chart} {xs : List α} (draw : α → List Trace)
    (traces : chart.traces = xs.zipIdx.flatMap fun (x, i) => (draw x).map fun t => (i, t))
    (i : Nat) : chart.inPlot i = (xs[i]?.map draw).getD [] := by
  have own := filter_zipIdx_flatMap draw xs 0 i
  rw [Nat.zero_add] at own
  rw [inPlot, traces, own, List.map_map]
  exact List.map_id _

end Speedup.Chart
