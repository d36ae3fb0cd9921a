import Mathlib.Algebra.Order.Ring.Nat
import Mathlib.Data.List.Induction
import Speedup.Proofs.Comparison.Observed

/-!
# Groups are a partition

By whatever key observations are grouped, each one that has a value is in one group, that of its
key (`Partitions`). The groups can be gathered in one pass, in which an observation adds its value
to the end of its group or opens one (`gather`); what this does with one observation more is the
step that the whole pass is made of (`values_concat`). Statistics and means are there for exactly
the same keys.
-/

namespace Speedup.Grouping

open Ordered

/-! ## One pass -/

section Gather

variable {κ : Type} [DecidableEq κ] {rows : List Observation} {k : κ}

theorem valuesAt_append (key : Observation → κ) (rows₁ rows₂ : List Observation) (k : κ) :
    valuesAt key (rows₁ ++ rows₂) k = valuesAt key rows₁ k ++ valuesAt key rows₂ k := by
  simp [valuesAt]

theorem valuesAt_concat (key : Observation → κ) (rows : List Observation) (o : Observation)
    (k : κ) : valuesAt key (rows ++ [o]) k =
      valuesAt key rows k ++ if key o = k then o.value.toList else [] := by
  rw [valuesAt_append, valuesAt_cons, show valuesAt key [] k = [] from rfl, List.append_nil]

variable [Ord κ] [Std.TransOrd κ] [Std.LawfulEqOrd κ]

omit [DecidableEq κ] in
/-- The groups with an observation more: its value comes to the end of the group of its key. -/
def gather (key : Observation → κ) (groups : Table κ (List Double)) (o : Observation) :
    Table κ (List Double) :=
  match o.value with
  | none => groups
  | some v => groups.insert (key o) ((groups.get? (key o)).getD [] ++ [v])

/-- An observation without a value changes no group, any other one only that of its key. -/
theorem values_concat (key : Observation → κ) (rows : List Observation) (o : Observation) :
    values key (rows ++ [o]) = gather key (values key rows) o := by
  apply Table.ext_get?
  intro k
  rw [get?_values, valuesAt_concat, gather]
  cases o.value with
  | none => rw [Option.toList_none, ite_self, List.append_nil, get?_values]
  | some v =>
      dsimp only
      by_cases here : key o = k
      · subst here
        rw [Table.get?_insert_self, get?_values, if_pos rfl]
        cases valuesAt key rows (key o) <;> rfl
      · rw [Table.get?_insert_of_ne _ (Ne.symm here), get?_values, if_neg here, List.append_nil]

theorem values_eq_foldl (key : Observation → κ) (rows : List Observation) :
    values key rows = rows.foldl (gather key) Table.empty := by
  induction rows using List.reverseRecOn with
  | nil => exact Table.ext_get? fun k => get?_values key [] k
  | append_singleton rows o ih => rw [values_concat, ih, List.foldl_concat]

end Gather

/-! ## Statistics of the groups -/

variable {κ : Type} [DecidableEq κ] [Ord κ] [Std.TransOrd κ] [Std.LawfulEqOrd κ]
  {key : Observation → κ} {rows : List Observation} {k : κ}

theorem keys_stats (key : Observation → κ) (rows : List Observation) :
    (stats key rows).keys = (values key rows).keys := by
  apply Table.keys_ext
  intro k
  rw [get?_stats, get?_values, someValues_eq, Option.isSome_map]

theorem keys_means (key : Observation → κ) (rows : List Observation) :
    (means key rows).keys = (values key rows).keys := by
  rw [← keys_stats]
  apply Table.keys_ext
  intro k
  rw [means, Table.get?_map, Option.isSome_map]

theorem map_n_stats (key : Observation → κ) (rows : List Observation) :
    (stats key rows).values.map (·.n) = (values key rows).values.map (·.length) := by
  unfold Table.values
  rw [List.map_map, List.map_map]
  show ((values key rows).entries.filterMap fun e =>
    (Stats.ofValues e.2).map fun s => (e.1, s)).map _ = _
  rw [List.map_filterMap, List.filterMap_eq_map_iff_forall_eq_some]
  intro e he
  have group := get?_values_eq_some_iff.mp (Table.get?_eq_some_iff.mpr he)
  have counted := Stats.map_n_ofValues group.2
  rw [Option.map_map]
  exact counted

theorem values_values (key : Observation → κ) (rows : List Observation) :
    (values key rows).values = (values key rows).keys.map (valuesAt key rows) := by
  rw [Table.values, entries_values, List.map_map]
  rfl

/-- All groups together hold every value once. -/
theorem flatten_values_perm (key : Observation → κ) (rows : List Observation) :
    (values key rows).values.flatten.Perm (rows.filterMap (·.value)) := by
  rw [values_values]
  refine flatMap_valuesAt_perm key (values key rows).ascending.nodup fun o ho value => ?_
  exact mem_keys_values_iff.mpr (valuesAt_ne_nil_iff.mpr ⟨o, ho, rfl, value⟩)

theorem length_filterMap_value (rows : List Observation) :
    (rows.filterMap (·.value)).length = (rows.filter (·.value.isSome)).length := by
  induction rows with
  | nil => rfl
  | cons o rest ih => cases value : o.value <;> simp [value, ih]

theorem sum_n_stats (key : Observation → κ) (rows : List Observation) :
    ((stats key rows).values.map (·.n)).sum = (rows.filter (·.value.isSome)).length := by
  rw [map_n_stats, ← List.length_flatten, (flatten_values_perm key rows).length_eq,
    length_filterMap_value]

/-! ## The partition -/

/-- What it means that the groups of observations by a key, their statistics and their means
divide up the values that are there. -/
structure Partitions (key : Observation → κ) (rows : List Observation) : Prop where
  ascending : Ascending (values key rows).keys
  /-- A group holds the values of its key in their order, and none is empty. -/
  mem_entries_iff : ∀ k xs, (k, xs) ∈ (values key rows).entries ↔
    xs = (rows.filter fun o => key o = k).filterMap (·.value) ∧ xs ≠ []
  every_value_once : (values key rows).values.flatten.Perm (rows.filterMap (·.value))
  /-- One pass over the observations gathers the groups. -/
  one_pass : values key rows = rows.foldl (gather key) Table.empty
  keys_stats : (stats key rows).keys = (values key rows).keys
  stats_of_group : ∀ k, (stats key rows).get? k = ((values key rows).get? k).bind Stats.ofValues
  counts : (stats key rows).values.map (·.n) = (values key rows).values.map (·.length)
  sum_counts : ((stats key rows).values.map (·.n)).sum = (rows.filter (·.value.isSome)).length
  keys_means : (means key rows).keys = (values key rows).keys
  mean_of_group : ∀ k, (means key rows).get? k = ((values key rows).get? k).bind Sample.mean

/-- Observations are partitioned by every key with a linear order. -/
theorem partitions (key : Observation → κ) (rows : List Observation) : Partitions key rows where
  ascending := (values key rows).ascending
  mem_entries_iff k xs := by
    rw [← Table.get?_eq_some_iff, get?_values_eq_some_iff, eq_comm]
    rfl
  every_value_once := flatten_values_perm key rows
  one_pass := values_eq_foldl key rows
  keys_stats := keys_stats key rows
  stats_of_group k := by rw [get?_stats, bind_get?_values rfl]
  counts := map_n_stats key rows
  sum_counts := sum_n_stats key rows
  keys_means := keys_means key rows
  mean_of_group k := by
    rw [get?_means, Stats.map_mean_ofValues, bind_get?_values rfl]

/-- Input sizes are interleaved, one of them is missing, and so is a value. -/
theorem partitions_interleaved :
    let row (value : Option Double) (inputsize : Option Int) : Observation :=
      ⟨"A", "X", "s", "total", "ms", "1", value, inputsize, none, none⟩
    let rows := [row (some 2) (some 10), row (some 3) none, row none (some 20),
      row (some 1) (some 10)]
    Partitions (·.inputsize) rows ∧
      (values (·.inputsize) rows).entries = [(none, [3]), (some 10, [2, 1])] := by
  intro row rows
  have all : Partitions (·.inputsize) rows := partitions (·.inputsize) rows
  refine ⟨all, ?_⟩
  rw [all.one_pass]
  decide +kernel

end Speedup.Grouping
