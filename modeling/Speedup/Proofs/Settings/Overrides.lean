import Mathlib.Data.List.Nodup
import Speedup.Settings.MetricOverride
import Speedup.Proofs.Ordered.Lookup

/-!
# Metrics changed and added

Settings take effect on metrics one key after the other. Because keys are there once, what comes of
it does not depend on this: every metric is changed by what is said under its own key, and the keys
that no metric has bring one metric each, in their order (`merge_eq`).
-/

namespace Speedup.MetricOverride

open Ordered

variable {metrics : List Metric} {entries : List (String × MetricOverride)}
  {overrides : Table String MetricOverride} {o : MetricOverride} {key : String} {m : Metric}

/-- A metric as it is changed by what is said under its key. -/
def changedBy (entries : List (String × MetricOverride)) (m : Metric) : Metric :=
  (entries.lookup m.key).elim m (·.applyTo m)

/-- The metrics under keys that are not among those given. -/
def newAmong (keys : List String) (entries : List (String × MetricOverride)) : List Metric :=
  entries.filterMap fun e => if e.1 ∈ keys then none else newMetric? e.1 e.2

/-- Metrics after all that is said has taken effect. -/
def effect (metrics : List Metric) (entries : List (String × MetricOverride)) : List Metric :=
  metrics.map (changedBy entries) ++ newAmong (metrics.map (·.key)) entries

def step (metrics : List Metric) (e : String × MetricOverride) : Except String (List Metric) :=
  if metrics.any (·.key == e.1) then .ok (applyFirst e.1 e.2 metrics)
  else
    match newMetric? e.1 e.2 with
    | some m => .ok (metrics ++ [m])
    | none => .error e.1

theorem merge_eq_foldlM (metrics : List Metric) (overrides : Table String MetricOverride) :
    merge metrics overrides = overrides.entries.foldlM step metrics := rfl

theorem key_changedBy (entries : List (String × MetricOverride)) (m : Metric) :
    (changedBy entries m).key = m.key := by
  unfold changedBy
  cases entries.lookup m.key <;> rfl

/-- A new metric takes its criterion and its unit from what is said, and the rest from there or
from these two. -/
theorem newMetric?_eq_some_iff : newMetric? key o = some m ↔
    m.key = key ∧ o.criterion = some m.criterion ∧ o.unit = some m.unit ∧
      o.label.getD (m.criterion ++ " (" ++ m.unit ++ ")") = m.label ∧
      o.title.getD m.criterion = m.title ∧
      o.precision.getD Metric.defaultPrecision = m.precision := by
  obtain ⟨criterion, unit, label, title, precision⟩ := o
  obtain ⟨key', criterion', unit', label', title', precision'⟩ := m
  cases criterion with
  | none => simp [newMetric?]
  | some criterion =>
      cases unit with
      | none => simp [newMetric?]
      | some unit =>
          simp only [newMetric?, Option.bind_eq_bind, Option.bind_some, Option.some.injEq,
            Metric.mk.injEq]
          constructor
          · rintro ⟨rfl, rfl, rfl, rfl, rfl, rfl⟩
            exact ⟨rfl, rfl, rfl, rfl, rfl, rfl⟩
          · rintro ⟨rfl, rfl, rfl, rfl, rfl, rfl⟩
            exact ⟨rfl, rfl, rfl, rfl, rfl, rfl⟩

theorem isSome_newMetric?_iff :
    (newMetric? key o).isSome ↔ o.criterion.isSome ∧ o.unit.isSome := by
  unfold newMetric?
  cases o.criterion <;> cases o.unit <;> simp

theorem applyFirst_of_not_mem (h : key ∉ metrics.map (·.key)) :
    applyFirst key o metrics = metrics := by
  induction metrics with
  | nil => rfl
  | cons m rest ih =>
      obtain ⟨ne, later⟩ := not_or.mp (List.mem_cons.not.mp h)
      rw [applyFirst, if_neg (Ne.symm ne), ih later]

/-- The first metric with a key is the only one. -/
theorem applyFirst_eq_map (nodup : (metrics.map (·.key)).Nodup) :
    applyFirst key o metrics =
      metrics.map fun m => if m.key = key then o.applyTo m else m := by
  induction metrics with
  | nil => rfl
  | cons m rest ih =>
      obtain ⟨new, nodup⟩ := List.nodup_cons.mp nodup
      rw [applyFirst, List.map_cons, ← ih nodup]
      by_cases found : m.key = key
      · rw [if_pos found, if_pos found, applyFirst_of_not_mem (found ▸ new)]
      · rw [if_neg found, if_neg found]

theorem changedBy_eq_elim (overrides : Table String MetricOverride) (m : Metric) :
    changedBy overrides.entries m = (overrides.get? m.key).elim m (·.applyTo m) := by
  rw [changedBy, Table.lookup_entries]

theorem lookup_eq_none_of_not_mem (h : key ∉ entries.map (·.1)) : entries.lookup key = none := by
  rw [List.lookup_eq_none_iff]
  intro e there
  exact bne_iff_ne.mpr fun same => h (List.mem_map.mpr ⟨e, there, same.symm⟩)

theorem any_key_iff : metrics.any (·.key == key) = true ↔ key ∈ metrics.map (·.key) := by
  simp

theorem changedBy_cons_of_ne {rest : List (String × MetricOverride)} (ne : m.key ≠ key) :
    changedBy ((key, o) :: rest) m = changedBy rest m := by
  have other : (m.key == key) = false := beq_false_of_ne ne
  rw [changedBy, List.lookup_cons, other]
  rfl

theorem changedBy_of_not_mem (h : m.key ∉ entries.map (·.1)) : changedBy entries m = m := by
  rw [changedBy, lookup_eq_none_of_not_mem h]
  rfl

/-- What is said under one key does not matter for what is said under the others. -/
theorem changedBy_cons {rest : List (String × MetricOverride)} (new : key ∉ rest.map (·.1))
    (m : Metric) : changedBy ((key, o) :: rest) m = changedBy rest (changedBy [(key, o)] m) := by
  by_cases same : m.key = key
  · subst same
    have first : changedBy [(m.key, o)] m = o.applyTo m := by
      rw [changedBy, List.lookup_cons_self]
      rfl
    rw [first, changedBy_of_not_mem (m := o.applyTo m) new, changedBy, List.lookup_cons_self]
    rfl
  · rw [changedBy_cons_of_ne same, changedBy_cons_of_ne same]
    rfl

theorem newAmong_cons (keys : List String) (e : String × MetricOverride)
    (rest : List (String × MetricOverride)) :
    newAmong keys (e :: rest) = newAmong keys [e] ++ newAmong keys rest := by
  unfold newAmong
  rw [← List.filterMap_append]
  rfl

theorem keys_effect (metrics : List Metric) (entries : List (String × MetricOverride)) :
    (effect metrics entries).map (·.key) =
      metrics.map (·.key) ++ (newAmong (metrics.map (·.key)) entries).map (·.key) := by
  rw [effect, List.map_append, List.map_map]
  exact congrArg (· ++ _) (List.map_congr_left fun m _ => key_changedBy entries m)

theorem key_of_mem_newAmong {keys : List String} (h : m ∈ newAmong keys entries) :
    m.key ∉ keys ∧ ∃ o, (m.key, o) ∈ entries ∧ newMetric? m.key o = some m := by
  obtain ⟨⟨key, o⟩, there, made⟩ := List.mem_filterMap.mp h
  by_cases known : key ∈ keys
  · rw [if_pos known] at made
    cases made
  · rw [if_neg known] at made
    obtain rfl := (newMetric?_eq_some_iff.mp made).1
    exact ⟨known, o, there, made⟩

/-- New metrics come in the order of their keys. -/
theorem keys_newAmong_sublist (keys : List String) (entries : List (String × MetricOverride)) :
    ((newAmong keys entries).map (·.key)).Sublist (entries.map (·.1)) := by
  induction entries with
  | nil => exact List.Sublist.refl _
  | cons e rest ih =>
      rw [newAmong, List.filterMap_cons]
      cases made : if e.1 ∈ keys then none else newMetric? e.1 e.2 with
      | none => exact ih.cons e.1
      | some m =>
          have named : m.key = e.1 := by
            split at made
            · cases made
            · exact (newMetric?_eq_some_iff.mp made).1
          rw [List.map_cons, List.map_cons, named]
          exact ih.cons_cons e.1

theorem step_eq (nodup : (metrics.map (·.key)).Nodup)
    (complete : key ∉ metrics.map (·.key) → (newMetric? key o).isSome) :
    step metrics (key, o) = .ok (effect metrics [(key, o)]) := by
  unfold step effect newAmong
  by_cases known : key ∈ metrics.map (·.key)
  · have changed : metrics.map (changedBy [(key, o)]) = applyFirst key o metrics := by
      rw [applyFirst_eq_map nodup]
      refine List.map_congr_left fun m _ => ?_
      by_cases same : m.key = key
      · subst same
        rw [if_pos rfl, changedBy, List.lookup_cons_self]
        rfl
      · rw [if_neg same, changedBy_cons_of_ne same]
        rfl
    rw [if_pos (any_key_iff.mpr known), List.filterMap_cons, if_pos known, changed]
    simp
  · obtain ⟨m, made⟩ := Option.isSome_iff_exists.mp (complete known)
    have unchanged : metrics.map (changedBy [(key, o)]) = metrics := by
      refine (List.map_congr_left fun m hm => changedBy_of_not_mem fun same => known ?_).trans
        (List.map_id _)
      exact List.mem_map.mpr ⟨m, hm, List.mem_singleton.mp same⟩
    rw [if_neg (any_key_iff.not.mpr known), List.filterMap_cons, if_neg known, unchanged, made]
    simp

theorem effect_cons {rest : List (String × MetricOverride)} (new : key ∉ rest.map (·.1)) :
    effect (effect metrics [(key, o)]) rest = effect metrics ((key, o) :: rest) := by
  have changed : (metrics.map (changedBy [(key, o)])).map (changedBy rest) =
      metrics.map (changedBy ((key, o) :: rest)) := by
    rw [List.map_map]
    exact List.map_congr_left fun m _ => (changedBy_cons new m).symm
  have named (m : Metric) (hm : m ∈ newAmong (metrics.map (·.key)) [(key, o)]) : m.key = key := by
    obtain ⟨_, o', there, _⟩ := key_of_mem_newAmong hm
    exact congrArg Prod.fst (List.mem_singleton.mp there)
  have unchanged : (newAmong (metrics.map (·.key)) [(key, o)]).map (changedBy rest) =
      newAmong (metrics.map (·.key)) [(key, o)] := by
    refine (List.map_congr_left fun m hm => ?_).trans (List.map_id _)
    exact changedBy_of_not_mem (by rw [named m hm]; exact new)
  have further : newAmong ((effect metrics [(key, o)]).map (·.key)) rest =
      newAmong (metrics.map (·.key)) rest := by
    refine List.filterMap_congr fun e he => ?_
    have known : e.1 ∈ (effect metrics [(key, o)]).map (·.key) ↔ e.1 ∈ metrics.map (·.key) := by
      rw [keys_effect, List.mem_append, or_iff_left]
      rintro added
      obtain ⟨m, hm, same⟩ := List.mem_map.mp added
      exact new (List.mem_map.mpr ⟨e, he, same.symm.trans (named m hm)⟩)
    simp only [known]
  rw [effect, further, effect, List.map_append, changed, unchanged, effect,
    newAmong_cons _ _ rest, List.append_assoc]

theorem nodup_keys_effect (once : (entries.map (·.1)).Nodup)
    (nodup : (metrics.map (·.key)).Nodup) : ((effect metrics entries).map (·.key)).Nodup := by
  rw [keys_effect]
  refine nodup.append (once.sublist (keys_newAmong_sublist _ _)) fun key known added => ?_
  obtain ⟨m, hm, rfl⟩ := List.mem_map.mp added
  exact (key_of_mem_newAmong hm).1 known

/-- Every key takes effect on its own; the induction is on the keys, for any metrics that are there
by then. -/
theorem foldlM_step (once : (entries.map (·.1)).Nodup) (nodup : (metrics.map (·.key)).Nodup)
    (complete : ∀ e ∈ entries, e.1 ∉ metrics.map (·.key) → (newMetric? e.1 e.2).isSome) :
    entries.foldlM step metrics = .ok (effect metrics entries) := by
  induction entries generalizing metrics with
  | nil =>
      have same : changedBy [] = id := rfl
      simp [effect, same, newAmong, pure, Except.pure]
  | cons e rest ih =>
      obtain ⟨key, o⟩ := e
      obtain ⟨new, later⟩ := List.nodup_cons.mp once
      obtain ⟨first, complete⟩ := List.forall_mem_cons.mp complete
      rw [List.foldlM_cons, step_eq nodup first, ← effect_cons new]
      refine ih later (nodup_keys_effect (List.nodup_singleton _) nodup) fun e he unknown => ?_
      refine complete e he fun known => unknown ?_
      rw [keys_effect]
      exact List.mem_append_left _ known

/-- What comes of metrics: each is changed by what is said under its key, and every new key that
has a criterion and a unit brings one more. -/
theorem merge_eq (nodup : (metrics.map (·.key)).Nodup)
    (complete : ∀ key o, overrides.get? key = some o → key ∉ metrics.map (·.key) →
      o.criterion.isSome ∧ o.unit.isSome) :
    merge metrics overrides = .ok (effect metrics overrides.entries) := by
  rw [merge_eq_foldlM]
  refine foldlM_step overrides.ascending.nodup nodup fun e he new => ?_
  exact isSome_newMetric?_iff.mpr (complete e.1 e.2 (Table.get?_eq_some_iff.mpr he) new)

end Speedup.MetricOverride
