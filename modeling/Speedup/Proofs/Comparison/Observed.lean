import Speedup.Proofs.Comparison.Contents
import Speedup.Proofs.Grouping

/-!
# Comparisons of observations

The table of means is made in two passes, by cell and then by benchmark. What it answers is still
the mean of one list: the values of an executable on a benchmark (`mean?_ofRows`). So observations
can be compared with a baseline exactly if it has a value among them (`isSome_ofRows_iff`).
-/

namespace Speedup

open Ordered

variable {rows : List Observation} {bench exe baseline : String}

theorem Grouping.get?_means {κ : Type} [Ord κ] [Std.TransOrd κ] [Std.LawfulEqOrd κ]
    [DecidableEq κ] (key : Observation → κ) (rows : List Observation) (k : κ) :
    (means key rows).get? k = (Stats.ofValues (valuesAt key rows k)).map (·.mean) := by
  rw [means, Table.get?_map, get?_stats]

/-- The means under a benchmark and an executable: there is at most one. -/
theorem BenchMeans.valuesUnder_cells (means : Table (Pair String String) Double)
    (bench exe : String) :
    Table.valuesUnder exe (Table.valuesUnder bench
      (means.entries.map fun (k, m) => (k.first, (k.second, m)))) =
      (means.get? ⟨bench, exe⟩).toList := by
  have cell : (means.entries.filter fun e => e.1 = ⟨bench, exe⟩).map (·.2) =
      (means.get? ⟨bench, exe⟩).toList := by
    rw [Table.filter_entries]
    cases means.get? ⟨bench, exe⟩ <;> rfl
  rw [← cell]
  unfold Table.valuesUnder
  simp only [List.filter_map, List.map_map, List.filter_filter]
  refine congrArg₂ List.map rfl (List.filter_congr fun e _ => ?_)
  obtain ⟨⟨b, x⟩, m⟩ := e
  rw [Bool.eq_iff_iff]
  simp [and_comm]

theorem BenchMeans.mean?_ofRows (rows : List Observation) (bench exe : String) :
    (ofRows rows).mean? bench exe =
      (Stats.ofValues (Grouping.valuesAt Grouping.cell rows ⟨bench, exe⟩)).map (·.mean) := by
  rw [← Grouping.get?_means, mean?, ofRows]
  dsimp only
  rw [Table.get?_map, Option.bind_map]
  -- What a benchmark without means answers is nothing, as an absent one does.
  refine (Table.bind_get?_group (Table.get?_ofList [] exe) _ bench).trans ?_
  show (Table.ofList _).get? exe = _
  rw [Table.get?_ofList, valuesUnder_cells]
  cases (Grouping.means Grouping.cell rows).get? ⟨bench, exe⟩ <;> rfl

namespace Comparison

/-- There is something to compare with exactly if the baseline has a value. -/
theorem isSome_ofRows_iff : (ofRows rows baseline).isSome ↔
    ∃ o ∈ rows, o.exe = baseline ∧ o.value.isSome := by
  rw [Option.isSome_iff_ne_none, ofRows, ne_eq, ofMeans_eq_none_iff, not_forall]
  simp only [BenchMeans.mean?_ofRows, ← ne_eq, Option.map_eq_none_iff,
    ← Option.isSome_iff_ne_none, Sample.isSome_ofValues_iff, Grouping.valuesAt_ne_nil_iff,
    Grouping.cell, Pair.mk.injEq]
  constructor
  · rintro ⟨_, o, ho, ⟨_, exe⟩, value⟩
    exact ⟨o, ho, exe, value⟩
  · rintro ⟨o, ho, exe, value⟩
    exact ⟨o.bench, o, ho, ⟨rfl, exe⟩, value⟩

/-- Only executables that are observed are ranked. -/
theorem exists_of_mem_ranking {c : Comparison} (h : ofRows rows baseline = some c) {r : Ranked}
    (hr : r ∈ c.ranking) : ∃ o ∈ rows, o.exe = r.exe := by
  obtain ⟨_, _, has_mean⟩ :=
    ((describes_of_ofMeans h).mem_exes r.exe).mp (List.mem_map_of_mem hr)
  rw [BenchMeans.mean?_ofRows, Option.isSome_map, Sample.isSome_ofValues_iff,
    Grouping.valuesAt_ne_nil_iff] at has_mean
  obtain ⟨o, ho, cell, _⟩ := has_mean
  exact ⟨o, ho, congrArg Pair.second cell⟩

end Comparison

end Speedup
