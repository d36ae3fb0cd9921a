import Speedup.Proofs.Settings.Merging
import Speedup.Proofs.Settings.Overrides
import Speedup.Settings.Basic

/-!
# What documents say

Documents give settings at paths (`given`). If they are made as settings are meant to be
(`WellTyped`), what is left of all of them at a path is what the last one gives that gives anything
there (`lastGiven`): for reports (`reportField?_eq`), and for the metrics, which become overrides
of one field each (`overrides_eq`).
-/

namespace Speedup

open Ordered

namespace Setting

abbrev Entries := List (String × Toml.Value)

/-- What an entry of a document says at a path. Its name may lead into tables as well. -/
def saidBy (path : List String) (e : String × Toml.Value) : List Setting :=
  match names? (KeyStep.path e.1) with
  | some names => said path (nest names (ofValue e.2))
  | none => []

/-- All that a document says at a path. -/
def given (doc : Entries) (path : List String) : List Setting := doc.flatMap (saidBy path)

/-- The setting at a path that the last document gives that gives any. -/
def lastGiven (docs : List Entries) (path : List String) : Option Setting :=
  docs.reverse.findSome? fun doc => (given doc path).getLast?

def lastText (docs : List Entries) (path : List String) : Option String :=
  (lastGiven docs path).bind text?

def lastTexts (docs : List Entries) (path : List String) : Option (List String) :=
  (lastGiven docs path).bind texts?

def lastNatural (docs : List Entries) (path : List String) : Option Nat :=
  (lastGiven docs path).bind natural?

/-! ## Documents as they are meant to be -/

/-- The fields of a metric that are texts. -/
def metricTexts : List String := ["criterion", "unit", "label", "title"]

/-- A table of texts and a precision. -/
structure MetricTable (s : Setting) : Prop where
  table : s.isTable
  texts : ∀ name ∈ metricTexts, ∀ v ∈ said [name] s, v.text?.isSome
  precision : ∀ v ∈ said ["precision"] s, v.natural?.isSome

/-- A table of metrics. -/
structure MetricTables (s : Setting) : Prop where
  table : s.isTable
  metrics : ∀ f ∈ s.fields, MetricTable f.2

/-- A table with the settings of reports. -/
structure ReportTable (s : Setting) : Prop where
  table : s.isTable
  baseline : ∀ v ∈ said ["baseline"] s, v.text?.isSome
  output : ∀ v ∈ said ["output_dir"] s, v.text?.isSome
  suites : ∀ v ∈ said ["exclude_suites"] s, v.texts?.isSome

/-- The name of an entry leads into a field. -/
def LeadsInto (name : String) (e : String × Toml.Value) : Prop :=
  (KeyStep.path e.1).head? = some (.field name)

/-- A document of tables that hold what is read of them. Beside them it may hold anything. -/
structure WellTyped (doc : Entries) : Prop where
  /-- No list is changed in place. -/
  names : ∀ e ∈ doc, LeadsInto "report" e ∨ LeadsInto "metric" e →
    (names? (KeyStep.path e.1)).isSome
  report : ∀ s ∈ given doc ["report"], ReportTable s
  metric : ∀ s ∈ given doc ["metric"], MetricTables s

variable {docs : List Entries} {doc : Entries} {path : List String} {name key : String}

instance (s : Setting) : Decidable (MetricTable s) :=
  decidable_of_iff (_ ∧ _ ∧ _) ⟨fun h => ⟨h.1, h.2.1, h.2.2⟩, fun h => ⟨h.1, h.2, h.3⟩⟩

instance (s : Setting) : Decidable (MetricTables s) :=
  decidable_of_iff (_ ∧ _) ⟨fun h => ⟨h.1, h.2⟩, fun h => ⟨h.1, h.2⟩⟩

instance (s : Setting) : Decidable (ReportTable s) :=
  decidable_of_iff (_ ∧ _ ∧ _ ∧ _)
    ⟨fun h => ⟨h.1, h.2.1, h.2.2.1, h.2.2.2⟩, fun h => ⟨h.1, h.2, h.3, h.4⟩⟩

instance (name : String) (e : String × Toml.Value) : Decidable (LeadsInto name e) :=
  inferInstanceAs (Decidable (_ = _))

instance (doc : Entries) : Decidable (WellTyped doc) :=
  decidable_of_iff (_ ∧ _ ∧ _) ⟨fun h => ⟨h.1, h.2.1, h.2.2⟩, fun h => ⟨h.1, h.2, h.3⟩⟩

/-! ## Documents laid over one another -/

theorem exists_path_eq (text : String) :
    ∃ name steps, KeyStep.path text = .field name :: steps := by
  unfold KeyStep.path
  dsimp only
  cases first : KeyStep.name? text.toList with
  | none => exact ⟨text, [], by simp⟩
  | some front =>
      obtain ⟨name, rest⟩ := front
      cases more : KeyStep.more? (rest.length + 1) rest with
      | none => exact ⟨text, [], by simp [more]⟩
      | some steps => exact ⟨name, steps, by simp [more]⟩

theorem given_append (doc : Entries) (path more : List String) :
    given doc (path ++ more) = (given doc path).flatMap (said more) := by
  unfold given
  rw [List.flatMap_assoc]
  refine congrArg₂ List.flatMap (funext fun e => ?_) rfl
  unfold saidBy
  split
  · exact said_append path more _
  · rfl

/-- All settings at a path, the ones of the last document at the end. -/
theorem getLast?_flatMap_given (docs : List Entries) (path : List String) :
    (docs.flatMap (given · path)).getLast? = lastGiven docs path :=
  List.getLast?_flatMap

/-- An entry is laid over a field as far as it leads there. -/
theorem field?_putAt_entry {s : Setting} {e : String × Toml.Value}
    (names : LeadsInto name e → (names? (KeyStep.path e.1)).isSome) :
    (s.putAt (KeyStep.path e.1) (ofValue e.2)).field? name =
      (saidBy [name] e).foldl layOver (s.field? name) := by
  unfold saidBy
  cases found : names? (KeyStep.path e.1) with
  | some path =>
      obtain ⟨first, steps, begins⟩ := exists_path_eq e.1
      rw [putAt_eq_laidOver found]
      rw [begins] at found
      obtain ⟨more, _, rfl⟩ := Option.map_eq_some_iff.mp found
      rw [field?_laidOver rfl]
      simp [said]
  | none =>
      obtain ⟨first, steps, begins⟩ := exists_path_eq e.1
      rw [begins]
      refine field?_putAt_of_ne fun same => ?_
      have leads : LeadsInto name e := by rw [LeadsInto, begins, same, List.head?_cons]
      rw [found] at names
      cases names leads

theorem field?_addLayer {s : Setting}
    (names : ∀ e ∈ doc, LeadsInto name e → (names? (KeyStep.path e.1)).isSome) :
    (s.addLayer doc).field? name = (given doc [name]).foldl layOver (s.field? name) := by
  induction doc generalizing s with
  | nil => rfl
  | cons e rest ih =>
      obtain ⟨first, names⟩ := List.forall_mem_cons.mp names
      show ((s.putAt (KeyStep.path e.1) (ofValue e.2)).addLayer rest).field? name = _
      rw [ih names, field?_putAt_entry first, ← List.foldl_append]
      rfl

/-- What is said under a name at the top of documents is laid over one another. -/
theorem field?_addLayers
    (names : ∀ doc ∈ docs, ∀ e ∈ doc, LeadsInto name e → (names? (KeyStep.path e.1)).isSome) :
    (docs.foldl addLayer (table [])).field? name = overlay (docs.flatMap (given · [name])) := by
  have below (s : Setting) : (docs.foldl addLayer s).field? name =
      (docs.flatMap (given · [name])).foldl layOver (s.field? name) := by
    induction docs generalizing s with
    | nil => rfl
    | cons doc rest ih =>
        obtain ⟨first, names⟩ := List.forall_mem_cons.mp names
        rw [List.foldl_cons, ih names, field?_addLayer first, List.flatMap_cons,
          List.foldl_append]
  exact below (table [])

/-- All documents together say at a path what each of them says there. -/
theorem flatMap_given_append (docs : List Entries) (path more : List String) :
    docs.flatMap (given · (path ++ more)) = (docs.flatMap (given · path)).flatMap (said more) := by
  simp only [given_append, List.flatMap_assoc]

/-- Tables that documents give, laid over one another, have the fields that the documents give. -/
theorem bind_field?_overlay_given {path : List String}
    (tables : ∀ s ∈ docs.flatMap (given · path), s.isTable) (name : String) :
    (overlay (docs.flatMap (given · path))).bind (·.field? name) =
      overlay (docs.flatMap (given · (path ++ [name]))) := by
  rw [flatMap_given_append]
  exact bind_field?_foldl none tables

/-! ## Settings of reports -/

theorem not_isTable_of_text? {s : Setting} (h : s.text?.isSome) : ¬ s.isTable := by
  cases s <;> simp_all [text?, isTable]

theorem not_isTable_of_texts? {s : Setting} (h : s.texts?.isSome) : ¬ s.isTable := by
  cases s <;> simp_all [texts?, isTable]

theorem not_isTable_of_natural? {s : Setting} (h : s.natural?.isSome) : ¬ s.isTable := by
  cases s <;> simp_all [natural?, isTable]

/-- What is said of reports under a plain name is the last thing that documents give. -/
theorem reportField?_eq (typed : ∀ doc ∈ docs, WellTyped doc)
    (plain : ∀ s, ReportTable s → ∀ v ∈ said [name] s, ¬ v.isTable) :
    Settings.reportField? (docs.foldl addLayer (table [])) name =
      lastGiven docs ["report", name] := by
  have tables (s : Setting) (h : s ∈ docs.flatMap (given · ["report"])) : ReportTable s := by
    obtain ⟨doc, hdoc, hs⟩ := List.mem_flatMap.mp h
    exact (typed doc hdoc).report s hs
  have inside : docs.flatMap (given · ["report", name]) =
      (docs.flatMap (given · ["report"])).flatMap (said [name]) :=
    flatMap_given_append docs ["report"] [name]
  unfold Settings.reportField?
  rw [field?_addLayers fun doc hdoc e he leads => (typed doc hdoc).names e he (.inl leads)]
  calc (overlay (docs.flatMap (given · ["report"]))).bind (·.field? name)
      = overlay (docs.flatMap (given · ["report", name])) :=
        bind_field?_overlay_given (fun s hs => (tables s hs).table) name
    _ = (docs.flatMap (given · ["report", name])).getLast? := by
        refine overlay_eq_getLast? fun v hv => ?_
        rw [inside] at hv
        obtain ⟨s, hs, hv⟩ := List.mem_flatMap.mp hv
        exact plain s (tables s hs) v hv
    _ = lastGiven docs ["report", name] := getLast?_flatMap_given docs _

/-! ## Settings of metrics -/

def overrideOf (docs : List Entries) (key : String) : MetricOverride where
  criterion := lastText docs ["metric", key, "criterion"]
  unit := lastText docs ["metric", key, "unit"]
  label := lastText docs ["metric", key, "label"]
  title := lastText docs ["metric", key, "title"]
  precision := lastNatural docs ["metric", key, "precision"]

/-- A document has a table for the metric. -/
def Mentions (docs : List Entries) (key : String) : Prop :=
  ∃ doc ∈ docs, given doc ["metric", key] ≠ []

theorem not_mentions_iff : ¬ Mentions docs key ↔ docs.flatMap (given · ["metric", key]) = [] := by
  simp [Mentions, List.flatMap_eq_nil_iff]

variable {α : Type} {read : Setting → Option α} {s : Setting} {ss : List Setting}

/-- A field of tables that are laid over one another, if what they say can be read. -/
theorem fieldOf?_overlay (h : overlay ss = some s) (tables : ∀ s ∈ ss, s.isTable)
    (nothing : read absent = none) (plain : ∀ v, (read v).isSome → ¬ v.isTable)
    (readable : ∀ v ∈ ss.flatMap (said [name]), (read v).isSome) :
    MetricOverride.fieldOf? s name read = some ((ss.flatMap (said [name])).getLast?.bind read) := by
  have last : s.field? name = (ss.flatMap (said [name])).getLast? := by
    rw [← overlay_eq_getLast? fun v hv => plain v (readable v hv)]
    have inside : (overlay ss).bind (·.field? name) = overlay (ss.flatMap (said [name])) :=
      bind_field?_foldl none tables
    rwa [h] at inside
  unfold MetricOverride.fieldOf?
  rw [last]
  cases given : (ss.flatMap (said [name])).getLast? with
  | none => rfl
  | some v =>
      obtain ⟨x, hx⟩ := Option.isSome_iff_exists.mp (readable v (List.mem_of_getLast? given))
      cases v with
      | absent =>
          rw [nothing] at hx
          cases hx
      | _ => simp [hx]

/-- The tables that documents have for a metric, laid over one another, are read field by field. -/
theorem ofSetting?_overlay (typed : ∀ s ∈ docs.flatMap (given · ["metric", key]), MetricTable s)
    (h : overlay (docs.flatMap (given · ["metric", key])) = some s) :
    MetricOverride.ofSetting? s = some (overrideOf docs key) := by
  have tables : ∀ s ∈ docs.flatMap (given · ["metric", key]), s.isTable :=
    fun s hs => (typed s hs).table
  have field (name : String) :
      ((docs.flatMap (given · ["metric", key])).flatMap (said [name])).getLast? =
        lastGiven docs ["metric", key, name] := by
    rw [← getLast?_flatMap_given]
    exact congrArg List.getLast? (flatMap_given_append docs ["metric", key] [name]).symm
  have text (name : String) (mem : name ∈ metricTexts) : MetricOverride.fieldOf? s name text? =
      some (lastText docs ["metric", key, name]) := by
    rw [fieldOf?_overlay h tables rfl (fun v => not_isTable_of_text?), field]
    · rfl
    · intro v hv
      obtain ⟨s, hs, hv⟩ := List.mem_flatMap.mp hv
      exact (typed s hs).texts name mem v hv
  have natural : MetricOverride.fieldOf? s "precision" natural? =
      some (lastNatural docs ["metric", key, "precision"]) := by
    rw [fieldOf?_overlay h tables rfl (fun v => not_isTable_of_natural?), field]
    · rfl
    · intro v hv
      obtain ⟨s, hs, hv⟩ := List.mem_flatMap.mp hv
      exact (typed s hs).precision v hv
  obtain ⟨fields, rfl⟩ := isTable_iff.mp (isTable_of_overlay tables h)
  simp only [MetricOverride.ofSetting?, text "criterion" (by decide), text "unit" (by decide),
    text "label" (by decide), text "title" (by decide), natural]
  rfl

/-- A table of metrics is read entry by entry. -/
theorem tableOf?_eq {fields : List (String × Setting)} {read : String → MetricOverride}
    (each : ∀ f ∈ fields, MetricOverride.ofSetting? f.2 = some (read f.1)) :
    MetricOverride.tableOf? (table fields) =
      some (Table.ofList (fields.map fun f => (f.1, read f.1))) := by
  have all : (fields.mapM fun f => (MetricOverride.ofSetting? f.2).map fun o => (f.1, o)) =
      some (fields.map fun f => (f.1, read f.1)) := by
    induction fields with
    | nil => rfl
    | cons f rest ih =>
        obtain ⟨first, each⟩ := List.forall_mem_cons.mp each
        rw [List.mapM_cons, first, ih each]
        rfl
  rw [MetricOverride.tableOf?, all]
  rfl

theorem get?_ofList_map {fields : List (String × Setting)} (read : String → MetricOverride)
    (key : String) : (Table.ofList (fields.map fun f => (f.1, read f.1))).get? key =
      if key ∈ fields.map (·.1) then some (read key) else none := by
  have keys : (fields.map fun f => (f.1, read f.1)).map (·.1) = fields.map (·.1) := by
    rw [List.map_map]
    rfl
  rw [Table.get?_ofList, ← keys]
  cases last : (Table.valuesUnder key (fields.map fun f => (f.1, read f.1))).getLast? with
  | none =>
      rw [if_neg fun there => Table.mem_map_fst_iff.mp there (List.getLast?_eq_none_iff.mp last)]
  | some o =>
      have there := List.mem_of_getLast? last
      rw [if_pos (Table.mem_map_fst_iff.mpr (List.ne_nil_of_mem there))]
      obtain ⟨p, hp, rfl⟩ := List.mem_map.mp there
      obtain ⟨hp, same⟩ := List.mem_filter.mp hp
      obtain ⟨f, _, rfl⟩ := List.mem_map.mp hp
      rw [show f.1 = key by simpa using same]

/-- Names that are there once lead to what they stand for. -/
theorem lookup_of_mem {fields : List (String × Setting)} (nodup : (fields.map (·.1)).Nodup)
    {f : String × Setting} (mem : f ∈ fields) : fields.lookup f.1 = some f.2 := by
  obtain ⟨before, after, rfl⟩ := List.append_of_mem mem
  refine List.lookup_eq_some_iff.mpr ⟨before, after, rfl, fun p hp => ?_⟩
  rw [List.map_append, List.map_cons] at nodup
  have ne := (List.nodup_append.mp nodup).2.2 p.1 (List.mem_map.mpr ⟨p, hp, rfl⟩) f.1 (by simp)
  simpa using Ne.symm ne

theorem isSome_field?_iff : (s.field? key).isSome ↔ key ∈ s.fields.map (·.1) := by
  rw [← Option.ne_none_iff_isSome, field?, ne_eq, List.lookup_eq_none_iff, List.mem_map]
  simp only [not_forall, bne_iff_ne, ne_eq, not_not, exists_prop]
  exact exists_congr fun f => and_congr_right fun _ => eq_comm

theorem mentions_iff_overlay :
    Mentions docs key ↔ overlay (docs.flatMap (given · ["metric", key])) ≠ none := by
  rw [Option.ne_none_iff_isSome, isSome_overlay_iff, ne_eq, ← not_mentions_iff, not_not]

/-- Documents lead to one override for every metric that they mention. -/
theorem overrides_eq (typed : ∀ doc ∈ docs, WellTyped doc) :
    ∃ overrides, Settings.overrides (docs.foldl addLayer (table [])) = .ok overrides ∧
      ∀ key o, overrides.get? key = some o ↔ Mentions docs key ∧ o = overrideOf docs key := by
  have tables (s : Setting) (h : s ∈ docs.flatMap (given · ["metric"])) : MetricTables s := by
    obtain ⟨doc, hdoc, hs⟩ := List.mem_flatMap.mp h
    exact (typed doc hdoc).metric s hs
  have all_tables (s : Setting) (h : s ∈ docs.flatMap (given · ["metric"])) : s.isTable :=
    (tables s h).table
  have field (key : String) : (overlay (docs.flatMap (given · ["metric"]))).bind (·.field? key) =
      overlay (docs.flatMap (given · ["metric", key])) := bind_field?_overlay_given all_tables key
  unfold Settings.overrides
  rw [field?_addLayers fun doc hdoc e he leads => (typed doc hdoc).names e he (.inr leads)]
  cases h : overlay (docs.flatMap (given · ["metric"])) with
  | none =>
      refine ⟨.empty, rfl, fun key o => iff_of_false nofun fun mentioned => ?_⟩
      apply mentions_iff_overlay.mp mentioned.1
      rw [← field, h]
      rfl
  | some s =>
      obtain ⟨fields, rfl⟩ := isTable_iff.mp (isTable_of_overlay all_tables h)
      rw [h] at field
      have mentioned (key : String) : key ∈ fields.map (·.1) ↔ Mentions docs key := by
        rw [mentions_iff_overlay, ← field, Option.ne_none_iff_isSome]
        exact (isSome_field?_iff (s := table fields)).symm
      have each : ∀ f ∈ fields, MetricOverride.ofSetting? f.2 = some (overrideOf docs f.1) := by
        intro f hf
        refine ofSetting?_overlay (fun v hv => ?_) ?_
        · have inside : v ∈ (docs.flatMap (given · ["metric"])).flatMap (said [f.1]) := by
            rwa [← flatMap_given_append]
          obtain ⟨s, hs, hv⟩ := List.mem_flatMap.mp inside
          exact (tables s hs).metrics _ (mem_said_singleton.mp hv)
        · rw [← field]
          exact lookup_of_mem (nodup_fields_overlay h) hf
      refine ⟨Table.ofList (fields.map fun f => (f.1, overrideOf docs f.1)), ?_, fun key o => ?_⟩
      · dsimp only
        rw [tableOf?_eq each]
      · rw [get?_ofList_map, ← mentioned]
        by_cases there : key ∈ fields.map (·.1) <;> simp [there, eq_comm]

end Setting

end Speedup
