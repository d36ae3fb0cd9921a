import Speedup.Proofs.CommandLine.Preparation
import Speedup.Proofs.Settings.Overrides

/-!
# What becomes of metrics

Settings are refused for the least key that is new and lacks its criterion or its unit: keys take
effect in their order, and before that one all of them do (`foldlM_step_eq`). Otherwise the metrics
stay in their places, changed in the fields that are said, and the new ones follow by key
(`Merged`). All keys are distinct then, so that every key that is asked for chooses one metric
(`Chooses`), and what is said once more changes nothing.
-/

namespace Speedup

open Ordered

namespace MetricOverride

variable {metrics merged : List Metric} {entries : List (String × MetricOverride)}
  {overrides : Table String MetricOverride} {o : MetricOverride} {key : String} {m : Metric}

/-! ## Settings that are refused -/

/-- What is said under a new key is not enough for a metric. -/
def Lacks (metrics : List Metric) (e : String × MetricOverride) : Prop :=
  e.1 ∉ metrics.map (·.key) ∧ (e.2.criterion = none ∨ e.2.unit = none)

instance (metrics : List Metric) (e : String × MetricOverride) : Decidable (Lacks metrics e) :=
  inferInstanceAs (Decidable (_ ∧ _))

/-- A new key that lacks its criterion or its unit. -/
def Incomplete (metrics : List Metric) (overrides : Table String MetricOverride)
    (key : String) : Prop :=
  ∃ o, overrides.get? key = some o ∧ Lacks metrics (key, o)

theorem newMetric?_eq_none_iff : newMetric? key o = none ↔ o.criterion = none ∨ o.unit = none := by
  rw [← Option.not_isSome_iff_eq_none, isSome_newMetric?_iff, not_and_or,
    Option.not_isSome_iff_eq_none, Option.not_isSome_iff_eq_none]

theorem isSome_newMetric?_of_not_lacks {e : String × MetricOverride} (h : ¬ Lacks metrics e)
    (new : e.1 ∉ metrics.map (·.key)) : (newMetric? e.1 e.2).isSome := by
  rw [Option.isSome_iff_ne_none, ne_eq, newMetric?_eq_none_iff]
  exact fun missing => h ⟨new, missing⟩

/-- Keys take effect up to the first one that lacks something. -/
theorem foldlM_step_eq (once : (entries.map (·.1)).Nodup) (nodup : (metrics.map (·.key)).Nodup) :
    entries.foldlM step metrics =
      match entries.find? (Lacks metrics ·) with
      | none => .ok (effect metrics entries)
      | some e => .error e.1 := by
  cases first : entries.find? (Lacks metrics ·) with
  | none =>
      refine foldlM_step once nodup fun e he => isSome_newMetric?_of_not_lacks ?_
      simpa using List.find?_eq_none.mp first e he
  | some e =>
      obtain ⟨lacks, before, after, rfl, fine⟩ := List.find?_eq_some_iff_append.mp first
      have lacks : Lacks metrics e := of_decide_eq_true lacks
      rw [List.map_append, List.map_cons, List.nodup_append] at once
      have reached : before.foldlM step metrics = .ok (effect metrics before) :=
        foldlM_step once.1 nodup fun e' he' =>
          isSome_newMetric?_of_not_lacks (by simpa using fine e' he')
      have new : e.1 ∉ (effect metrics before).map (·.key) := by
        rw [keys_effect, List.mem_append, not_or]
        refine ⟨lacks.1, fun added => ?_⟩
        exact once.2.2 _ ((keys_newAmong_sublist _ before).subset added) _ List.mem_cons_self rfl
      have refused : step (effect metrics before) e = .error e.1 := by
        rw [step, if_neg (any_key_iff.not.mpr new), newMetric?_eq_none_iff.mpr lacks.2]
      rw [List.foldlM_append, reached]
      show (e :: after).foldlM step _ = _
      rw [List.foldlM_cons, refused]
      rfl

theorem incomplete_iff : Incomplete metrics overrides key ↔
    ∃ e ∈ overrides.entries, e.1 = key ∧ Lacks metrics e := by
  constructor
  · rintro ⟨o, there, lacks⟩
    exact ⟨(key, o), Table.get?_eq_some_iff.mp there, rfl, lacks⟩
  · rintro ⟨⟨key, o⟩, there, rfl, lacks⟩
    exact ⟨o, Table.get?_eq_some_iff.mpr there, lacks⟩

/-- The first entry that lacks something has the least key of them. -/
theorem least_of_find? {e : String × MetricOverride}
    (first : overrides.entries.find? (Lacks metrics ·) = some e) :
    Incomplete metrics overrides e.1 ∧
      ∀ other, Incomplete metrics overrides other → atMost e.1 other = true := by
  obtain ⟨lacks, before, after, parts, fine⟩ := List.find?_eq_some_iff_append.mp first
  have there : e ∈ overrides.entries := List.mem_of_find?_eq_some first
  refine ⟨incomplete_iff.mpr ⟨e, there, rfl, of_decide_eq_true lacks⟩, fun other h => ?_⟩
  obtain ⟨e', there', rfl, lacks'⟩ := incomplete_iff.mp h
  have ascending := overrides.ascending
  rw [parts, List.map_append, List.map_cons, Ascending, List.pairwise_append] at ascending
  rw [parts, List.mem_append, List.mem_cons] at there'
  rcases there' with early | rfl | late
  · exact absurd lacks' (by simpa using fine e' early)
  · simp [atMost]
  · have less := List.rel_of_pairwise_cons ascending.2.1 (List.mem_map_of_mem late)
    simp [atMost, less]

theorem atMost_antisymm {a b : String} (h : atMost a b = true) (h' : atMost b a = true) :
    a = b := by
  have le : (compare a b).isLE := by simpa [atMost, Ordering.isLE_iff_ne_gt] using h
  have ge : (compare b a).isLE := by simpa [atMost, Ordering.isLE_iff_ne_gt] using h'
  exact Std.LawfulEqCmp.eq_of_compare (Std.OrientedCmp.isLE_antisymm le ge)

section Refused

variable (nodup : (metrics.map (·.key)).Nodup)
include nodup

theorem merge_eq_match : merge metrics overrides =
    match overrides.entries.find? (Lacks metrics ·) with
    | none => .ok (effect metrics overrides.entries)
    | some e => .error e.1 := by
  rw [merge_eq_foldlM, foldlM_step_eq overrides.ascending.nodup nodup]

/-- Settings are refused for the least key that lacks something. -/
theorem merge_eq_error_iff : merge metrics overrides = .error key ↔
    Incomplete metrics overrides key ∧
      ∀ other, Incomplete metrics overrides other → atMost key other = true := by
  rw [merge_eq_match nodup]
  cases first : overrides.entries.find? (Lacks metrics ·) with
  | none =>
      refine iff_of_false nofun fun ⟨incomplete, _⟩ => ?_
      obtain ⟨e, there, _, lacks⟩ := incomplete_iff.mp incomplete
      simpa [lacks] using List.find?_eq_none.mp first e there
  | some e =>
      obtain ⟨incomplete, least⟩ := least_of_find? first
      constructor
      · rintro ⟨rfl⟩
        exact ⟨incomplete, least⟩
      · rintro ⟨incomplete', least'⟩
        exact congrArg Except.error
          (atMost_antisymm (least key incomplete') (least' e.1 incomplete))

theorem merge_eq_ok_iff : merge metrics overrides = .ok merged ↔
    merged = effect metrics overrides.entries ∧ ∀ key, ¬ Incomplete metrics overrides key := by
  rw [merge_eq_match nodup]
  cases first : overrides.entries.find? (Lacks metrics ·) with
  | none =>
      have complete (key : String) : ¬ Incomplete metrics overrides key := by
        intro incomplete
        obtain ⟨e, there, _, lacks⟩ := incomplete_iff.mp incomplete
        simpa [lacks] using List.find?_eq_none.mp first e there
      simp [complete, eq_comm]
  | some e =>
      refine iff_of_false nofun fun ⟨_, complete⟩ => ?_
      exact complete e.1 (least_of_find? first).1

end Refused

/-! ## Metrics changed and added -/

/-- A metric in which exactly the fields are changed that are said; what is not said stays. -/
structure Changed (said : Option MetricOverride) (m m' : Metric) : Prop where
  key : m'.key = m.key
  criterion : m'.criterion = (said.bind (·.criterion)).getD m.criterion
  unit : m'.unit = (said.bind (·.unit)).getD m.unit
  label : m'.label = (said.bind (·.label)).getD m.label
  title : m'.title = (said.bind (·.title)).getD m.title
  precision : m'.precision = (said.bind (·.precision)).getD m.precision

/-- A metric that is made of what is said under a key; what may be left out follows from the
criterion and the unit. -/
structure Made (e : String × MetricOverride) (m : Metric) : Prop where
  key : m.key = e.1
  criterion : e.2.criterion = some m.criterion
  unit : e.2.unit = some m.unit
  label : m.label = e.2.label.getD (m.criterion ++ " (" ++ m.unit ++ ")")
  title : m.title = e.2.title.getD m.criterion
  precision : m.precision = e.2.precision.getD Metric.defaultPrecision

/-- The metrics that settings lead to: those there were, in their order, and behind them the new
ones by key. -/
structure Merged (metrics : List Metric) (overrides : Table String MetricOverride)
    (changed added : List Metric) : Prop where
  changes : List.Forall₂ (fun m m' => Changed (overrides.get? m.key) m m') metrics changed
  additions : List.Forall₂ Made
    (overrides.entries.filter fun e => e.1 ∉ metrics.map (·.key)) added
  ascending : Ascending (added.map (·.key))
  nodup : ((changed ++ added).map (·.key)).Nodup

theorem changed_changedBy (overrides : Table String MetricOverride) (m : Metric) :
    Changed (overrides.get? m.key) m (changedBy overrides.entries m) := by
  rw [changedBy_eq_elim]
  cases overrides.get? m.key <;> exact ⟨rfl, rfl, rfl, rfl, rfl, rfl⟩

theorem made_of_newMetric? {e : String × MetricOverride} (h : newMetric? e.1 e.2 = some m) :
    Made e m := by
  obtain ⟨key, criterion, unit, label, title, precision⟩ := newMetric?_eq_some_iff.mp h
  exact ⟨key, criterion, unit, label.symm, title.symm, precision.symm⟩

/-- Every new key brings a metric if none of them lacks anything. -/
theorem forall₂_newAmong (complete : ∀ e ∈ entries, ¬ Lacks metrics e) :
    List.Forall₂ Made (entries.filter fun e => e.1 ∉ metrics.map (·.key))
      (newAmong (metrics.map (·.key)) entries) := by
  induction entries with
  | nil => exact .nil
  | cons e rest ih =>
      obtain ⟨first, later⟩ := List.forall_mem_cons.mp complete
      rw [newAmong, List.filterMap_cons, List.filter_cons]
      by_cases known : e.1 ∈ metrics.map (·.key)
      · simp only [known, if_true]
        exact ih later
      · obtain ⟨m, made⟩ := Option.isSome_iff_exists.mp
          (isSome_newMetric?_of_not_lacks first known)
        simp only [known, if_false, made]
        exact .cons (made_of_newMetric? made) (ih later)

theorem not_lacks_of_complete (complete : ∀ key, ¬ Incomplete metrics overrides key) :
    ∀ e ∈ overrides.entries, ¬ Lacks metrics e :=
  fun e he lacks => complete e.1 (incomplete_iff.mpr ⟨e, he, rfl, lacks⟩)

theorem merged_of_complete (nodup : (metrics.map (·.key)).Nodup)
    (complete : ∀ key, ¬ Incomplete metrics overrides key) :
    Merged metrics overrides (metrics.map (changedBy overrides.entries))
      (newAmong (metrics.map (·.key)) overrides.entries) where
  changes := List.forall₂_map_right_iff.mpr
    (List.forall₂_same.mpr fun m _ => changed_changedBy overrides m)
  additions := forall₂_newAmong (not_lacks_of_complete complete)
  ascending := overrides.ascending.sublist (keys_newAmong_sublist _ _)
  nodup := nodup_keys_effect overrides.ascending.nodup nodup

/-! ## What is said once more -/

theorem getD_getD {α : Type} (x : Option α) (a : α) : x.getD (x.getD a) = x.getD a := by
  cases x <;> rfl

theorem applyTo_applyTo (o : MetricOverride) (m : Metric) :
    o.applyTo (o.applyTo m) = o.applyTo m := by
  simp only [applyTo, getD_getD]

/-- A new metric has the fields already that are said. -/
theorem Made.applyTo_eq (h : Made (key, o) m) : o.applyTo m = m := by
  have criterion : o.criterion.getD m.criterion = m.criterion := by rw [h.criterion]; rfl
  have unit : o.unit.getD m.unit = m.unit := by rw [h.unit]; rfl
  have label : o.label.getD m.label = m.label := by rw [h.label]; exact getD_getD _ _
  have title : o.title.getD m.title = m.title := by rw [h.title]; exact getD_getD _ _
  have precision : o.precision.getD m.precision = m.precision := by
    rw [h.precision]
    exact getD_getD _ _
  rw [applyTo, criterion, unit, label, title, precision]

theorem changedBy_of_mem_effect (h : m ∈ effect metrics overrides.entries) :
    changedBy overrides.entries m = m := by
  rw [changedBy_eq_elim]
  rcases List.mem_append.mp h with known | new
  · obtain ⟨m, -, rfl⟩ := List.mem_map.mp known
    rw [key_changedBy, changedBy_eq_elim]
    cases overrides.get? m.key with
    | none => rfl
    | some o => exact applyTo_applyTo o m
  · obtain ⟨-, o, there, made⟩ := key_of_mem_newAmong new
    rw [Table.get?_eq_some_iff.mpr there]
    exact (made_of_newMetric? (e := (m.key, o)) made).applyTo_eq

theorem mem_keys_effect_of_complete (complete : ∀ e ∈ entries, ¬ Lacks metrics e)
    {e : String × MetricOverride} (he : e ∈ entries) :
    e.1 ∈ (effect metrics entries).map (·.key) := by
  rw [keys_effect, List.mem_append, or_iff_not_imp_left]
  intro new
  obtain ⟨m, made⟩ := Option.isSome_iff_exists.mp
    (isSome_newMetric?_of_not_lacks (complete e he) new)
  have added : m ∈ newAmong (metrics.map (·.key)) entries :=
    List.mem_filterMap.mpr ⟨e, he, by rw [if_neg new, made]⟩
  exact List.mem_map.mpr ⟨m, added, (made_of_newMetric? made).key⟩

theorem merge_effect (nodup : (metrics.map (·.key)).Nodup)
    (complete : ∀ key, ¬ Incomplete metrics overrides key) :
    merge (effect metrics overrides.entries) overrides =
      .ok (effect metrics overrides.entries) := by
  have known {e : String × MetricOverride} (he : e ∈ overrides.entries) :
      e.1 ∈ (effect metrics overrides.entries).map (·.key) :=
    mem_keys_effect_of_complete (not_lacks_of_complete complete) he
  have nothing_new :
      newAmong ((effect metrics overrides.entries).map (·.key)) overrides.entries = [] :=
    List.filterMap_eq_nil_iff.mpr fun e he => if_pos (known he)
  have unchanged : (effect metrics overrides.entries).map (changedBy overrides.entries) =
      effect metrics overrides.entries :=
    (List.map_congr_left fun m hm => changedBy_of_mem_effect hm).trans (List.map_id _)
  rw [merge_eq_ok_iff (nodup_keys_effect overrides.ascending.nodup nodup)]
  constructor
  · conv_rhs => rw [effect, nothing_new, unchanged, List.append_nil]
  · rintro key ⟨o, there, new, -⟩
    exact new (known (Table.get?_eq_some_iff.mp there))

end MetricOverride

/-! ## Choosing among distinct keys -/

namespace Settings

open CommandLine

variable {settings : Settings} {keys : List String} {metrics : List Metric}

/-- How keys choose metrics: the first key that is unknown is refused by name; otherwise every key
chooses one metric, however often it is there, in the order of the metrics. No key chooses all. -/
structure Chooses (settings : Settings) (keys : List String) : Prop where
  refused : ∀ f, settings.selectMetrics keys = .error f ↔
    ∃ before key after, keys = before ++ key :: after ∧ (∀ k ∈ before, Known settings k) ∧
      ¬ Known settings key ∧
      f = .plain ("Unknown metric '" ++ key ++ "'. Known metrics: " ++
        String.intercalate ", " (settings.metrics.map (·.key)))
  succeeds : (∃ metrics, settings.selectMetrics keys = .ok metrics) ↔
    ∀ key ∈ keys, Known settings key
  all : keys = [] → settings.selectMetrics keys = .ok settings.metrics
  ordered : ∀ metrics, settings.selectMetrics keys = .ok metrics →
    metrics.Sublist settings.metrics
  requested : ∀ metrics, settings.selectMetrics keys = .ok metrics → keys ≠ [] →
    ∀ m, m ∈ metrics ↔ m ∈ settings.metrics ∧ m.key ∈ keys
  once : ∀ metrics, settings.selectMetrics keys = .ok metrics →
    ∀ key ∈ keys, ∃ m, m.key = key ∧ metrics.filter (·.key = key) = [m]

theorem selectMetrics_eq_error_iff {f : Failure} : settings.selectMetrics keys = .error f ↔
    ∃ before key after, keys = before ++ key :: after ∧ (∀ k ∈ before, Known settings k) ∧
      ¬ Known settings key ∧ f = settings.unknownMetric key := by
  have first : settings.selectMetrics keys = .error f ↔ ∃ key,
      keys.find? (isUnknown settings) = some key ∧ f = settings.unknownMetric key := by
    rw [selectMetrics_eq]
    cases keys.find? (isUnknown settings) <;> simp [okUnless, eq_comm]
  rw [first]
  simp only [List.find?_eq_some_iff_append, Bool.not_eq_true', isUnknown_eq_false_iff,
    isUnknown_eq_true_iff]
  constructor
  · rintro ⟨key, ⟨unknown, before, after, parts, known⟩, failure⟩
    exact ⟨before, key, after, parts, known, unknown, failure⟩
  · rintro ⟨before, key, after, parts, known, unknown, failure⟩
    exact ⟨key, ⟨unknown, before, after, parts, known⟩, failure⟩

theorem chooses (nodup : (settings.metrics.map (·.key)).Nodup) (keys : List String) :
    Chooses settings keys where
  refused _ := selectMetrics_eq_error_iff
  succeeds := by
    simp only [selectMetrics_eq_ok_iff]
    exact ⟨fun ⟨_, known, _⟩ => known, fun known => ⟨_, known, rfl⟩⟩
  all none_requested := by
    subst none_requested
    exact selectMetrics_eq_ok_iff.mpr ⟨nofun, by simp [chosen]⟩
  ordered _ h := by
    rw [(selectMetrics_eq_ok_iff.mp h).2]
    exact List.filter_sublist
  requested _ h some_requested m := by
    rw [(selectMetrics_eq_ok_iff.mp h).2]
    simp [chosen, some_requested]
  once _ h key hkey := by
    obtain ⟨known, rfl⟩ := selectMetrics_eq_ok_iff.mp h
    obtain ⟨m, hm, rfl⟩ := known key hkey
    refine ⟨m, rfl, filter_key_eq_singleton Metric.key (nodup.sublist ?_) ?_⟩
    · exact List.filter_sublist.map _
    · exact List.mem_filter.mpr ⟨hm, by simp [hkey]⟩

end Settings

namespace MetricOverride

variable {metrics : List Metric}

/-- What settings make of metrics. They are refused for the least key that is new and lacks
something, and otherwise change and add metrics, which are settled then and can be chosen by their
keys. -/
structure Merges (metrics : List Metric) (overrides : Table String MetricOverride) : Prop where
  refused : ∀ key, merge metrics overrides = .error key ↔
    Incomplete metrics overrides key ∧
      ∀ other, Incomplete metrics overrides other → atMost key other = true
  refused_iff : (∃ key, merge metrics overrides = .error key) ↔
    ∃ key, Incomplete metrics overrides key
  named : ∀ key, (SettingsProblem.incompleteMetric key).message =
    "Metric '" ++ key ++ "' needs both 'criterion' and 'unit' to be configured"
  merged : ∀ merged, merge metrics overrides = .ok merged →
    ∃ changed added, merged = changed ++ added ∧ Merged metrics overrides changed added
  settled : ∀ merged, merge metrics overrides = .ok merged → merge merged overrides = .ok merged
  chooses : ∀ settings : Settings, merge metrics overrides = .ok settings.metrics →
    ∀ keys, settings.Chooses keys

theorem refused_iff (nodup : (metrics.map (·.key)).Nodup)
    (overrides : Table String MetricOverride) :
    (∃ key, merge metrics overrides = .error key) ↔ ∃ key, Incomplete metrics overrides key := by
  constructor
  · rintro ⟨key, refused⟩
    exact ⟨key, (merge_eq_error_iff nodup).mp refused |>.1⟩
  · rintro ⟨key, incomplete⟩
    cases result : merge metrics overrides with
    | error key' => exact ⟨key', rfl⟩
    | ok merged => exact absurd incomplete ((merge_eq_ok_iff nodup).mp result |>.2 key)

/-- Metrics under distinct keys are changed and extended key by key, and every key that is there
then chooses its one metric. -/
theorem merges (nodup : (metrics.map (·.key)).Nodup) (overrides : Table String MetricOverride) :
    Merges metrics overrides where
  refused _ := merge_eq_error_iff nodup
  refused_iff := refused_iff nodup overrides
  named _ := rfl
  merged _ h := by
    obtain ⟨rfl, complete⟩ := (merge_eq_ok_iff nodup).mp h
    exact ⟨_, _, rfl, merged_of_complete nodup complete⟩
  settled _ h := by
    obtain ⟨rfl, complete⟩ := (merge_eq_ok_iff nodup).mp h
    exact merge_effect nodup complete
  chooses settings h keys := by
    refine Settings.chooses ?_ keys
    rw [((merge_eq_ok_iff nodup).mp h).1]
    exact nodup_keys_effect overrides.ascending.nodup nodup

/-- Times with more places. -/
def precise : MetricOverride := ⟨none, none, none, none, some 3⟩

/-- A new metric, and what it may leave out. -/
def threads : MetricOverride := ⟨some "Threads", some "n", none, none, none⟩

/-- One key that is known and one that is new. -/
theorem merges_threads :
    (Metric.builtIn.map (·.key)).Nodup ∧
    Merges Metric.builtIn ((Table.empty.insert "time_ms" precise).insert "threads" threads) ∧
    merge Metric.builtIn ((Table.empty.insert "time_ms" precise).insert "threads" threads) =
      .ok [{ Metric.time with precision := 3 }, Metric.bytes, Metric.gcTime, Metric.gcCount,
        ⟨"threads", "Threads", "n", "Threads (n)", "Threads", 2⟩] ∧
    Merges Metric.builtIn (Table.empty.insert "threads" precise) ∧
    merge Metric.builtIn (Table.empty.insert "threads" precise) = .error "threads" :=
  ⟨by decide, merges (by decide) _, by decide, merges (by decide) _, by decide⟩

end MetricOverride

end Speedup
