import Mathlib.Data.List.Perm.Basic
import Speedup.Grouping
import Speedup.Proofs.Ordered.Lookup
import Speedup.Proofs.Sample.Median

/-!
# What groups hold

The group of a key is the list of the values that the observations with this key have
(`valuesAt`), in the order of the observations; a key has no group where this list is empty. All
statistics by key are functions of these lists, so two lists of observations with the same values
at every key have the same statistics (`values_congr`).
-/

namespace Speedup

def someValues (xs : List Double) : Option (List Double) := if xs.isEmpty then none else some xs

theorem someValues_eq (xs : List Double) : someValues xs = (Stats.ofValues xs).map fun _ => xs := by
  cases xs with
  | nil => rfl
  | cons x rest =>
      have some_stats : (Stats.ofValues (x :: rest)).isSome :=
        Sample.isSome_ofValues_iff.mpr (List.cons_ne_nil x rest)
      obtain ⟨s, hs⟩ := Option.isSome_iff_exists.mp some_stats
      rw [hs]
      rfl

theorem flatMap_someValues (xs : List Double) : (someValues xs).toList.flatMap id = xs := by
  cases xs <;> simp [someValues]

namespace Grouping

open Ordered

variable {κ : Type} [DecidableEq κ] {key : Observation → κ} {rows rows₁ rows₂ : List Observation}
  {k : κ} {xs : List Double}

/-- The values of the observations with a key, in their order. -/
def valuesAt (key : Observation → κ) (rows : List Observation) (k : κ) : List Double :=
  (rows.filter fun o => key o = k).filterMap (·.value)

theorem mem_valuesAt_iff {x : Double} :
    x ∈ valuesAt key rows k ↔ ∃ o ∈ rows, key o = k ∧ o.value = some x := by
  simp only [valuesAt, List.mem_filterMap, List.mem_filter, decide_eq_true_eq, and_assoc]

theorem valuesAt_ne_nil_iff : valuesAt key rows k ≠ [] ↔
    ∃ o ∈ rows, key o = k ∧ o.value.isSome := by
  constructor
  · intro h
    obtain ⟨x, hx⟩ := List.exists_mem_of_ne_nil _ h
    obtain ⟨o, ho, hk, hv⟩ := mem_valuesAt_iff.mp hx
    exact ⟨o, ho, hk, by rw [hv]; rfl⟩
  · rintro ⟨o, ho, hk, hv⟩
    obtain ⟨x, hx⟩ := Option.isSome_iff_exists.mp hv
    exact List.ne_nil_of_mem (mem_valuesAt_iff.mpr ⟨o, ho, hk, hx⟩)

/-- The observations may come in another order if this does not matter for their values. -/
theorem valuesAt_perm (h : rows₁.Perm rows₂) (k : κ) :
    (valuesAt key rows₁ k).Perm (valuesAt key rows₂ k) :=
  (h.filter _).filterMap _

omit [DecidableEq κ] in
/-- The values of an executable among the observations of a benchmark are those of the cell. -/
theorem valuesAt_ofBench (bench exe : String) (rows : List Observation) :
    valuesAt (·.exe) (Observation.ofBench bench rows) exe = valuesAt cell rows ⟨bench, exe⟩ := by
  unfold valuesAt Observation.ofBench cell
  rw [List.filter_filter]
  refine congrArg (List.filterMap _) (List.filter_congr fun o _ => ?_)
  rw [Bool.eq_iff_iff]
  simp [and_comm]

theorem valuesAt_cons (key : Observation → κ) (o : Observation) (rows : List Observation)
    (k : κ) : valuesAt key (o :: rows) k =
      (if key o = k then o.value.toList else []) ++ valuesAt key rows k := by
  unfold valuesAt
  by_cases here : key o = k
  · cases value : o.value <;> simp [here, value]
  · simp [here]

omit [DecidableEq κ] in
theorem filterMap_value_filter (rows : List Observation) :
    (rows.filter (·.value.isSome)).filterMap (·.value) = rows.filterMap (·.value) := by
  induction rows with
  | nil => rfl
  | cons o rest ih => cases value : o.value <;> simp [value, ih]

/-- The values under keys that cover all observations are all values. -/
theorem flatMap_valuesAt_perm (key : Observation → κ) {keys : List κ} (distinct : keys.Nodup)
    (covered : ∀ o ∈ rows, o.value.isSome → key o ∈ keys) :
    (keys.flatMap (valuesAt key rows)).Perm (rows.filterMap (·.value)) := by
  have valued (k : κ) : valuesAt key rows k =
      ((rows.filter (·.value.isSome)).filter fun o => key o = k).filterMap (·.value) := by
    rw [List.filter_comm, filterMap_value_filter]
    rfl
  rw [funext valued, ← List.filterMap_flatMap, ← filterMap_value_filter rows]
  refine (flatMap_filter_perm key distinct fun o ho => ?_).filterMap _
  exact covered o (List.mem_filter.mp ho).1 (List.mem_filter.mp ho).2

variable [Ord κ] [Std.TransOrd κ] [Std.LawfulEqOrd κ]

omit [Std.TransOrd κ] in
theorem valuesUnder_keyed (key : Observation → κ) (rows : List Observation) (k : κ) :
    Table.valuesUnder k (keyed key rows) = valuesAt key rows k := by
  induction rows with
  | nil => rfl
  | cons o rest ih =>
      unfold Table.valuesUnder keyed valuesAt at *
      by_cases hk : key o = k
      · cases hv : o.value <;> simp [hk, hv, ih]
      · cases hv : o.value <;> simp [hk, hv, ih]

theorem get?_values_eq_some_iff :
    (values key rows).get? k = some xs ↔ valuesAt key rows k = xs ∧ xs ≠ [] := by
  rw [values, Table.get?_group_eq_some_iff, valuesUnder_keyed]

theorem get?_values (key : Observation → κ) (rows : List Observation) (k : κ) :
    (values key rows).get? k = someValues (valuesAt key rows k) := by
  ext xs
  rw [get?_values_eq_some_iff, someValues]
  cases valuesAt key rows k with
  | nil =>
      simp only [List.isEmpty_nil, if_true, reduceCtorEq, iff_false, not_and, not_not]
      exact Eq.symm
  | cons x rest =>
      simp only [List.isEmpty_cons, Bool.false_eq_true, if_false, Option.some.injEq,
        and_iff_left_iff_imp]
      rintro rfl
      exact List.cons_ne_nil x rest

theorem mem_keys_values_iff : k ∈ (values key rows).keys ↔ valuesAt key rows k ≠ [] := by
  rw [← Table.isSome_get?_iff, Option.isSome_iff_exists]
  simp only [get?_values_eq_some_iff]
  constructor
  · rintro ⟨xs, rfl, some_value⟩
    exact some_value
  · intro some_value
    exact ⟨_, rfl, some_value⟩

theorem entries_values (key : Observation → κ) (rows : List Observation) :
    (values key rows).entries =
      (values key rows).keys.map fun k => (k, valuesAt key rows k) := by
  rw [Table.entries_eq_filterMap, List.filterMap_eq_map_iff_forall_eq_some]
  intro k hk
  rw [get?_values_eq_some_iff.mpr ⟨rfl, mem_keys_values_iff.mp hk⟩]
  rfl

/-- Observations with the same values at every key have the same groups. -/
theorem values_congr (h : ∀ k, valuesAt key rows₁ k = valuesAt key rows₂ k) :
    values key rows₁ = values key rows₂ := by
  apply Table.ext_get?
  intro k
  ext xs
  rw [get?_values_eq_some_iff, get?_values_eq_some_iff, h]

/-- What is computed from the values of a group, where nothing comes of no values. -/
theorem bind_get?_values {β : Type} {f : List Double → Option β} (nothing : f [] = none) (k : κ) :
    ((values key rows).get? k).bind f = f (valuesAt key rows k) := by
  rw [← valuesUnder_keyed]
  exact Table.bind_get?_group nothing _ k

theorem get?_stats (key : Observation → κ) (rows : List Observation) (k : κ) :
    (stats key rows).get? k = Stats.ofValues (valuesAt key rows k) := by
  rw [stats, Table.get?_filterMap]
  exact bind_get?_values rfl k

/-- There are statistics as soon as there is one value. -/
theorem isEmpty_stats_eq_false_iff (key : Observation → κ) :
    (stats key rows).isEmpty = false ↔ ∃ o ∈ rows, o.value.isSome := by
  rw [← Bool.not_eq_true, Table.isEmpty_eq_true_iff]
  simp only [get?_stats, not_forall, ← ne_eq, ← Option.isSome_iff_ne_none,
    Sample.isSome_ofValues_iff, valuesAt_ne_nil_iff]
  constructor
  · rintro ⟨_, o, ho, _, hv⟩
    exact ⟨o, ho, hv⟩
  · rintro ⟨o, ho, hv⟩
    exact ⟨key o, o, ho, rfl, hv⟩

theorem mem_benches_iff {bench : String} :
    bench ∈ benches rows ↔ ∃ o ∈ rows, o.bench = bench := by
  rw [benches, mem_distinct, List.mem_map]

theorem mem_environments_iff {envid : String} :
    envid ∈ environments rows ↔ ∃ o ∈ rows, o.envid = envid := by
  rw [environments, mem_distinct, List.mem_map]

end Grouping

end Speedup
