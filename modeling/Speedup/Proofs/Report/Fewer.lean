import Mathlib.Data.List.Flatten
import Speedup.Proofs.Comparison.Observed
import Speedup.Proofs.Files.Fewer
import Speedup.Proofs.Report.Listing

/-!
# Reports of fewer observations

Observations only ever add documents: what is reported of some of them is reported of all of them
as well, in the same order (`sublist_items`). So where a report can be written, a report of fewer
observations can be (`failure_steps_of_fewer`), and in particular one without those of the baseline
in some metrics, or in all of them. Comparing writes one document or none, and whether that can be
done does not depend on what it says (`failure_compare_eq`).
-/

namespace Speedup

open Ordered

/-! ## One document -/

namespace Files

/-- What stands in the way of a file is not its content. -/
theorem Tree.writeFile_alike {α : Type} (t : Tree α) (p : Path) (content content' : α) :
    (∃ problem, t.writeFile p content = .error problem ∧
      t.writeFile p content' = .error problem) ∨
    ∃ written written', t.writeFile p content = .ok written ∧
      t.writeFile p content' = .ok written' := by
  unfold writeFile
  rcases t.target? p with problem | _ | target
  · exact .inl ⟨problem, rfl, rfl⟩
  · exact .inl ⟨.isFolder, rfl, rfl⟩
  · simp only [bind, Except.bind]
    split
    · exact .inl ⟨.isFolder, rfl, rfl⟩
    · rcases enter target.folder target.name with problem | place
      · exact .inl ⟨problem, rfl, rfl⟩
      · dsimp only
        rcases t.at? place with _ | _ | _
        · exact .inr ⟨_, _, rfl, rfl⟩
        · exact .inl ⟨.isFolder, rfl, rfl⟩
        · exact .inr ⟨_, _, rfl, rfl⟩

/-- Whether a document can be written does not depend on the document. -/
theorem failure_writeDocument_congr (t : Tree Document) (p : Path)
    (document document' : Document) :
    (writeDocument t p document).failure = (writeDocument t p document').failure := by
  unfold writeDocument
  dsimp only
  split
  · obtain ⟨problem, h, h'⟩ | ⟨written, written', h, h'⟩ :=
      t.writeFile_alike p document document' <;> simp [h, h']
  · split
    next made _ =>
      obtain ⟨problem, h, h'⟩ | ⟨written, written', h, h'⟩ :=
        made.writeFile_alike p document document' <;> simp [h, h']
    · rfl

end Files

namespace Report

open Files

variable {t : Files.Tree Document} {root : Path} {rows rows' : List Observation}
  {metrics : List Metric} {baseline baseline' : String} {output : Path}

/-! ## Fewer documents -/

theorem measured_sublist (fewer : rows ⊆ rows') : (measured rows).Sublist (measured rows') := by
  refine Ascending.sublist_of_subset (Grouping.values _ _).ascending
    (Grouping.values _ _).ascending fun bench there => ?_
  obtain ⟨o, ho, same⟩ := mem_measured_iff.mp there
  exact mem_measured_iff.mpr ⟨o, fewer ho, same⟩

theorem metricParts_sublist (fewer : rows ⊆ rows') (key : String) :
    (metricParts key rows).Sublist (metricParts key rows') := by
  have tables := measured_sublist fewer
  unfold metricParts
  split
  · exact List.nil_sublist _
  next something =>
    have more : ¬ rows'.isEmpty = true := by
      rw [List.isEmpty_iff] at something ⊢
      exact fun nothing => something (List.subset_nil.mp (nothing ▸ fewer))
    rw [if_neg more]
    exact ((tables.map _).append (tables.map _)).append (List.Sublist.refl _)

theorem panelParts_sublist (fewer : rows ⊆ rows') :
    (panelParts metrics rows).Sublist (panelParts metrics rows') := by
  refine (measured_sublist fun o ho => ?_).map _
  obtain ⟨m, hm, ho⟩ := List.mem_flatMap.mp ho
  exact List.mem_flatMap.mpr ⟨m, hm, List.filter_subset _ fewer ho⟩

theorem environmentParts_sublist (fewer : rows ⊆ rows') :
    (environmentParts metrics rows).Sublist (environmentParts metrics rows') :=
  (List.Sublist.flatMap_right _ fun _ _ =>
    metricParts_sublist (List.filter_subset _ fewer) _).append (panelParts_sublist fewer)

theorem ite_sublist {α : Type} {p q : Prop} [Decidable p] [Decidable q] (h : p → q) (xs : List α) :
    (if p then xs else []).Sublist (if q then xs else []) := by
  by_cases hp : p
  · rw [if_pos hp, if_pos (h hp)]
  · rw [if_neg hp]
    exact List.nil_sublist _

theorem mainParts_sublist (fewer : rows ⊆ rows')
    (compared : ∀ m ∈ metrics, (Comparison.ofRows (m.select rows) baseline).isSome →
      (Comparison.ofRows (m.select rows') baseline').isSome) :
    (mainParts rows metrics baseline).Sublist (mainParts rows' metrics baseline') := by
  have pivots (m : Metric) :
      (pivotParts m (m.select rows)).Sublist (pivotParts m (m.select rows')) := by
    refine ite_sublist (fun there => ?_) _
    rw [Chart.isSome_pivot?_iff] at there ⊢
    obtain ⟨o, ho, value⟩ := there
    exact ⟨o, List.filter_subset _ fewer ho, value⟩
  refine (((List.Sublist.flatMap_right _ fun m _ => ?_).append (panelParts_sublist fewer)).append
    (List.Sublist.flatMap_right _ fun m hm => ?_)).append (List.Sublist.refl _)
  · exact (metricParts_sublist (List.filter_subset _ fewer) _).append (pivots m)
  · exact (ite_sublist (compared m hm) _).append (List.Sublist.refl _)

/-- What is reported of some observations is reported of more of them. -/
theorem sublist_items (fewer : rows ⊆ rows')
    (compared : ∀ m ∈ metrics, (Comparison.ofRows (m.select rows) baseline).isSome →
      (Comparison.ofRows (m.select rows') baseline').isSome) (environments : Bool) :
    (items rows metrics baseline environments).Sublist
      (items rows' metrics baseline' environments) := by
  refine ((mainParts_sublist fewer compared).map _).append ?_
  split
  · have folders : (Grouping.environments rows).Sublist (Grouping.environments rows') := by
      refine Ascending.sublist_of_subset (ascending_distinct _) (ascending_distinct _)
        fun envid there => ?_
      obtain ⟨o, ho, same⟩ := Grouping.mem_environments_iff.mp there
      exact Grouping.mem_environments_iff.mpr ⟨o, fewer ho, same⟩
    refine (List.Sublist.flatMap_right _ fun envid _ => ?_).trans (folders.flatMap _)
    exact (environmentParts_sublist (List.filter_subset _ fewer)).map _
  · exact List.Sublist.refl _

/-- Where a report can be written, a report of fewer observations can be written. -/
theorem failure_steps_of_fewer (whole : Tree.Whole t) (fewer : rows ⊆ rows')
    (compared : ∀ m ∈ metrics, (Comparison.ofRows (m.select rows) baseline).isSome →
      (Comparison.ofRows (m.select rows') baseline').isSome) (environments : Bool)
    (done : ((Progress.start t).run root
      (steps root rows' metrics baseline' environments)).failure = none) :
    ((Progress.start t).run root (steps root rows metrics baseline environments)).failure =
      none := by
  have fewer_written : (Step.written (steps root rows metrics baseline environments)).Sublist
      (Step.written (steps root rows' metrics baseline' environments)) := by
    rw [written_steps, written_steps]
    exact (sublist_items fewer compared environments).map _
  have same : Tree.Fewer (Progress.start t).tree (Progress.start t).tree := .refl t
  exact Progress.failure_run_of_sublist same whole rfl rfl fewer_written done

/-! ## Comparing -/

theorem comparisonNotes_eq (baseline : String) (all : List MetricComparison) :
    comparisonNotes baseline all = (all.flatMap (·.log baseline)).map .note := by
  rw [comparisonNotes, List.map_flatMap]

/-- What a comparison in one form holds. -/
def outputDocument (all : List MetricComparison) : OutputForm → Document
  | .text => .text (MetricComparison.overview all)
  | .table => .text (MetricComparison.table all)
  | .page => .page (Chart.dashboard (MetricComparison.drawn all))

def outputStep (all : List MetricComparison) (output : Path) (form : OutputForm) : Step :=
  if OutputForm.isPrint output then .print (MetricComparison.overview all)
  else .write [output] (outputDocument all form)

variable {form : OutputForm} (supported : OutputForm.ofPath? output = some form)

include supported

theorem not_isPrint (no_text : form ≠ .text) : ¬ OutputForm.isPrint output = true := by
  intro print
  rw [OutputForm.ofPath?, if_pos print, Option.some_inj] at supported
  exact no_text supported.symm

theorem exists_comparisonSteps_eq (all : List MetricComparison) : ∃ entries : List Log.Entry,
    comparisonSteps all output form = entries.map .note ++ [outputStep all output form] := by
  cases form with
  | text =>
      refine ⟨[], ?_⟩
      simp only [comparisonSteps, outputStep, outputDocument]
      split <;> rfl
  | table =>
      refine ⟨[], ?_⟩
      rw [outputStep, if_neg (not_isPrint supported (by decide))]
      rfl
  | page =>
      refine ⟨Chart.dashboardLog (MetricComparison.drawn all), ?_⟩
      rw [outputStep, if_neg (not_isPrint supported (by decide))]
      rfl

/-- Comparing in a supported form logs and then shows all metrics. -/
theorem exists_compare_eq (rows : List Observation) (metrics : List Metric) (baseline : String) :
    ∃ entries : List Log.Entry, compare rows metrics baseline output = (entries.map .note ++
      [outputStep (MetricComparison.all rows metrics baseline) output form], none) := by
  obtain ⟨entries, shown⟩ :=
    exists_comparisonSteps_eq supported (MetricComparison.all rows metrics baseline)
  unfold compare
  rw [supported]
  dsimp only
  rw [shown, comparisonNotes_eq, ← List.append_assoc, ← List.map_append]
  exact ⟨_, rfl⟩

/-- All that can keep a comparison in a supported form from success is that its document cannot be
written, whatever that says. -/
theorem failure_compare_eq (t : Files.Tree Document) (root : Path) (rows : List Observation)
    (metrics : List Metric) (baseline : String) (document : Document) :
    (compare rows metrics baseline output).2 = none ∧
    ((Progress.start t).run root (compare rows metrics baseline output).1).failure =
      if OutputForm.isPrint output then none
      else (writeDocument t (Path.below root [output]) document).failure := by
  obtain ⟨entries, steps⟩ := exists_compare_eq supported rows metrics baseline
  rw [steps, Progress.run_concat, Progress.run_notes rfl, outputStep]
  refine ⟨rfl, ?_⟩
  split
  · rfl
  · rw [Progress.take_write rfl, Progress.failure_write]
    exact failure_writeDocument_congr _ _ _ document

end Report

end Speedup
