import Speedup.Proofs.Report.Documents

/-!
# No document takes the place of another

Three things name the documents of a report: keys of metrics, names of benchmarks and environments.
The names of files are made from them in ways that can meet: separators become underscores, keys
stand beside `panels`, `pivots` and `summary_dashboard`, and one key can be another with `_detailed`
behind it. Names that do not meet in these ways are `Distinguishable`, and for them every document
has a place of its own (`place_injective`).
-/

namespace Speedup.Report

open Ordered Files

/-! ## Names of files -/

/-- What the name of a file ends in. -/
inductive Ending where
  | html
  | csv
  | txt
  deriving DecidableEq, Repr

def Ending.text : Ending → String
  | html => ".html"
  | csv => ".csv"
  | txt => ".txt"

/-- A file as the folders that lead to it, its stem and its ending. -/
@[ext]
structure Form where
  folders : List String
  stem : String
  ending : Ending
  deriving DecidableEq, Repr

def Form.names (f : Form) : List String := f.folders ++ [f.stem ++ f.ending.text]

theorem Ending.getLast?_append (s : String) (e : Ending) :
    (s ++ e.text).toList.getLast? = e.text.toList.getLast? := by
  cases e <;> simp [text]

/-- The last character tells endings apart. -/
theorem Ending.eq_of_getLast?_eq {e e' : Ending}
    (h : e.text.toList.getLast? = e'.text.toList.getLast?) : e = e' := by
  revert h
  cases e <;> cases e' <;> decide

theorem append_ending_inj {s s' : String} {e e' : Ending} (h : s ++ e.text = s' ++ e'.text) :
    s = s' ∧ e = e' := by
  have same : e = e' := by
    apply Ending.eq_of_getLast?_eq
    rw [← e.getLast?_append s, h, e'.getLast?_append]
  subst same
  exact ⟨by simpa using h, rfl⟩

theorem Form.names_injective : Function.Injective Form.names := by
  rintro ⟨folders, stem, ending⟩ ⟨folders', stem', ending'⟩ h
  obtain ⟨rfl, file⟩ := List.append_inj' h rfl
  obtain ⟨rfl, rfl⟩ := append_ending_inj (List.singleton_inj.mp file)
  rfl

theorem Ending.slash_not_mem (e : Ending) : '/' ∉ e.text.toList := by
  cases e <;> decide

theorem append_ending_ne {short : String} (h : short.length ≤ 2) (s : String) (e : Ending) :
    s ++ e.text ≠ short := by
  rintro rfl
  have ending : 2 < e.text.length := by cases e <;> decide
  rw [String.length_append] at h
  omega

theorem busy_append_ending (s : String) (e : Ending) : Path.isIdle (s ++ e.text) = false := by
  simp only [Path.isIdle, Bool.or_eq_false_iff, beq_eq_false_iff_ne]
  exact ⟨append_ending_ne (by decide) s e, append_ending_ne (by decide) s e⟩

theorem isName_append_ending {s : String} (h : '/' ∉ s.toList) (e : Ending) :
    Path.IsName (s ++ e.text) where
  busy := busy_append_ending s e
  proper := append_ending_ne (by decide) s e
  single := by
    rw [String.toList_append, List.mem_append, not_or]
    exact ⟨h, e.slash_not_mem⟩

theorem slash_not_mem_fileStem (name : String) : '/' ∉ (Tables.fileStem name).toList := by
  simp only [Tables.fileStem, String.toList_ofList, List.mem_map, not_exists, not_and]
  intro c _
  split
  · decide
  next other => exact fun slash => other (by simp [slash])

/-! ## Names of documents -/

open Tables (fileStem)

namespace Part

def form : Part → Form
  | box key bench => ⟨[key], fileStem bench, .html⟩
  | table key bench => ⟨["summaries", key], fileStem bench, .csv⟩
  | master key => ⟨["summaries"], "MASTER_" ++ key, .csv⟩
  | panel bench => ⟨["panels"], fileStem bench, .html⟩
  | pivot key => ⟨["pivots"], key, .html⟩
  | overall key => ⟨["summaries"], "OVERALL_" ++ key, .csv⟩
  | summary key => ⟨[], "summary_" ++ key, .html⟩
  | detailed key => ⟨[], "summary_" ++ key ++ "_detailed", .html⟩
  | dashboard => ⟨[], "summary_dashboard", .html⟩
  | text => ⟨[], "summary", .txt⟩

theorem names_form (part : Part) : part.form.names = part.place := by
  cases part <;> rfl

def Among (keys : List String) (benches : String → Prop) : Part → Prop
  | box key bench | table key bench => key ∈ keys ∧ benches bench
  | master key | pivot key | overall key | summary key | detailed key => key ∈ keys
  | panel bench => benches bench
  | dashboard | text => True

theorem Among.imp {keys : List String} {benches benches' : String → Prop} {part : Part}
    (h : part.Among keys benches) (sub : ∀ bench, benches bench → benches' bench) :
    part.Among keys benches' := by
  cases part with
  | box key bench | table key bench => exact ⟨h.1, sub bench h.2⟩
  | panel bench => exact sub bench h
  | _ => exact h

/-- Whether a document is repeated for every environment. -/
def repeated : Part → Bool
  | box _ _ | table _ _ | master _ | panel _ => true
  | _ => false

end Part

/-- The folders of what is shown of an environment, below `envs`: none for an empty name or a
dot. -/
def environmentFolders (envid : String) : List String :=
  if Path.isIdle (fileStem envid) then [] else [fileStem envid]

/-- The file of a document, seen from the folder of the report. -/
def Item.form (item : Item) : Form :=
  match item.environment with
  | none => item.part.form
  | some envid => { item.part.form with
      folders := "envs" :: environmentFolders envid ++ item.part.form.folders }

/-! ## Names that do not meet -/

/-- Keys of metrics are names of files, and neither they nor the names of benchmarks meet. -/
structure Distinguishable (keys : List String) (benches : String → Prop) : Prop where
  name : ∀ key ∈ keys, Path.IsName key
  panels : "panels" ∉ keys
  dashboard : "dashboard" ∉ keys
  detailed : ∀ key ∈ keys, key ++ "_detailed" ∉ keys
  pivots : "pivots" ∈ keys → ∀ bench, benches bench → fileStem bench ∉ keys
  stem : ∀ bench bench', benches bench → benches bench' → fileStem bench = fileStem bench' →
    bench = bench'

/-- Environments have folders of their own below `envs`. -/
structure Separated (keys environments : List String) : Prop where
  proper : ∀ envid ∈ environments, fileStem envid ≠ ".."
  folders : ∀ envid ∈ environments, ∀ envid' ∈ environments,
    environmentFolders envid = environmentFolders envid' → envid = envid'
  /-- An environment without a name has the tables of a metric `summaries` where an environment
  `summaries` has the tables of all benchmarks. -/
  summaries : "summaries" ∈ keys → ∀ envid ∈ environments, environmentFolders envid ≠ []

variable {keys : List String} {benches : String → Prop} {environments : List String}

theorem master_ne_overall (key key' : String) : "MASTER_" ++ key ≠ "OVERALL_" ++ key' := by
  intro h
  have first := congrArg (fun x => x.toList.head?) h
  simp at first

theorem detailed_ne_dashboard (key : String) :
    "summary_" ++ key ++ "_detailed" ≠ "summary_dashboard" := by
  intro h
  have last := congrArg (fun x => x.toList.reverse.take 2) h
  simp at last

namespace Distinguishable

variable (names : Distinguishable keys benches) {key key' bench bench' : String}

include names

theorem box_ne_panel (hk : key ∈ keys) : (Part.box key bench).form ≠ (Part.panel bench').form := by
  intro h
  have folder : key = "panels" := List.singleton_inj.mp (congrArg Form.folders h)
  exact names.panels (folder ▸ hk)

theorem box_ne_pivot (hk : key ∈ keys) (hb : benches bench) (hk' : key' ∈ keys) :
    (Part.box key bench).form ≠ (Part.pivot key').form := by
  intro h
  have folder : key = "pivots" := List.singleton_inj.mp (congrArg Form.folders h)
  have stem : fileStem bench = key' := congrArg Form.stem h
  exact names.pivots (folder ▸ hk) bench hb (stem ▸ hk')

theorem summary_ne_detailed (hk : key ∈ keys) (hk' : key' ∈ keys) :
    (Part.summary key).form ≠ (Part.detailed key').form := by
  intro h
  have stem : "summary_" ++ key = "summary_" ++ key' ++ "_detailed" := congrArg Form.stem h
  rw [String.append_assoc, String.append_right_inj] at stem
  exact names.detailed key' hk' (stem ▸ hk)

theorem summary_ne_dashboard (hk : key ∈ keys) :
    (Part.summary key).form ≠ Part.dashboard.form := by
  intro h
  have stem : "summary_" ++ key = "summary_" ++ "dashboard" := congrArg Form.stem h
  rw [String.append_right_inj] at stem
  exact names.dashboard (stem ▸ hk)

end Distinguishable

/-- In one scope every file is of one document. -/
theorem Part.form_inj (names : Distinguishable keys benches) {a b : Part}
    (ha : a.Among keys benches) (hb : b.Among keys benches) (h : a.form = b.form) : a = b := by
  -- Two kinds of documents differ in their folders or endings, but for the pairs named here.
  cases a with
  | box key bench =>
      cases b with
      | box key' bench' =>
          obtain ⟨rfl, stem⟩ : key = key' ∧ fileStem bench = fileStem bench' := by
            simpa [form] using h
          rw [names.stem bench bench' ha.2 hb.2 stem]
      | panel bench' => exact absurd h (names.box_ne_panel ha.1)
      | pivot key' => exact absurd h (names.box_ne_pivot ha.1 ha.2 hb)
      | _ => simp [form] at h
  | table key bench =>
      cases b with
      | table key' bench' =>
          obtain ⟨rfl, stem⟩ : key = key' ∧ fileStem bench = fileStem bench' := by
            simpa [form] using h
          rw [names.stem bench bench' ha.2 hb.2 stem]
      | _ => simp [form] at h
  | master key =>
      cases b with
      | master key' => simpa [form] using h
      | overall key' => exact absurd (congrArg Form.stem h) (master_ne_overall _ _)
      | _ => simp [form] at h
  | panel bench =>
      cases b with
      | box key' bench' => exact absurd h.symm (names.box_ne_panel hb.1)
      | panel bench' => rw [names.stem bench bench' ha hb (congrArg Form.stem h)]
      | _ => simp [form] at h
  | pivot key =>
      cases b with
      | box key' bench' => exact absurd h.symm (names.box_ne_pivot hb.1 hb.2 ha)
      | pivot key' => simpa [form] using h
      | _ => simp [form] at h
  | overall key =>
      cases b with
      | master key' => exact absurd (congrArg Form.stem h).symm (master_ne_overall _ _)
      | overall key' => simpa [form] using h
      | _ => simp [form] at h
  | summary key =>
      cases b with
      | summary key' => simpa [form] using h
      | detailed key' => exact absurd h (names.summary_ne_detailed ha hb)
      | dashboard => exact absurd h (names.summary_ne_dashboard ha)
      | _ => simp [form] at h
  | detailed key =>
      cases b with
      | summary key' => exact absurd h.symm (names.summary_ne_detailed hb ha)
      | detailed key' => simpa [form] using h
      | dashboard => exact absurd (congrArg Form.stem h) (detailed_ne_dashboard _)
      | _ => simp [form] at h
  | dashboard =>
      cases b with
      | summary key' => exact absurd h.symm (names.summary_ne_dashboard hb)
      | detailed key' => exact absurd (congrArg Form.stem h).symm (detailed_ne_dashboard _)
      | dashboard => rfl
      | _ => simp [form] at h
  | text =>
      cases b with
      | text => rfl
      | _ => simp [form] at h

/-! ## Scopes -/

theorem Part.folders_ne_envs (part : Part) {rest : List String} (some_more : rest ≠ []) :
    part.form.folders ≠ "envs" :: rest := by
  cases part <;> simp [form, Ne.symm some_more]

theorem Part.folders_ne_nil {part : Part} (h : part.repeated = true) : part.form.folders ≠ [] := by
  cases part <;> simp_all [form, repeated]

/-- A document can lie a folder deeper than another one of the same form only if there is a metric
`summaries`. -/
theorem Part.summaries_mem {a b : Part} (ha : a.Among keys benches) (ra : a.repeated = true)
    (rb : b.repeated = true) {folder : String} (nested : a.form.folders = folder :: b.form.folders)
    (ending : a.form.ending = b.form.ending) : "summaries" ∈ keys := by
  cases a <;> cases b <;> simp_all [form, repeated, Among]

def Item.Among (keys : List String) (benches : String → Prop) (environments : List String)
    (item : Item) : Prop :=
  item.part.Among keys benches ∧
    ∀ envid, item.environment = some envid → envid ∈ environments ∧ item.part.repeated = true

/-- Environments with documents in one file are the same. -/
theorem Separated.environment_eq (separated : Separated keys environments) {envid envid' : String}
    (he : envid ∈ environments) (he' : envid' ∈ environments) {a b : Part}
    (ha : a.Among keys benches) (hb : b.Among keys benches)
    (ra : a.repeated = true) (rb : b.repeated = true) (ending : a.form.ending = b.form.ending)
    (folders : environmentFolders envid ++ a.form.folders =
      environmentFolders envid' ++ b.form.folders) : envid = envid' := by
  apply separated.folders envid he envid' he'
  -- If only one of them has a folder, the other one's document lies a folder deeper.
  have cases_of (envid : String) :
      environmentFolders envid = [] ∨ environmentFolders envid = [fileStem envid] := by
    unfold environmentFolders
    split
    · exact .inl rfl
    · exact .inr rfl
  obtain none_there | own := cases_of envid
  · obtain none_there' | own' := cases_of envid'
    · rw [none_there, none_there']
    · rw [none_there, own'] at folders
      exact absurd none_there
        (separated.summaries (Part.summaries_mem ha ra rb folders ending) envid he)
  · obtain none_there' | own' := cases_of envid'
    · rw [own, none_there'] at folders
      exact absurd none_there'
        (separated.summaries (Part.summaries_mem hb rb ra folders.symm ending.symm) envid' he')
    · rw [own, own'] at folders ⊢
      rw [(List.cons.inj folders).1]

/-- Every file is of one document. -/
theorem Item.form_inj (names : Distinguishable keys benches)
    (separated : Separated keys environments) {a b : Item} (ha : a.Among keys benches environments)
    (hb : b.Among keys benches environments) (h : a.form = b.form) : a = b := by
  obtain ⟨scope, part⟩ := a
  obtain ⟨scope', part'⟩ := b
  obtain ⟨ha, of_env⟩ := ha
  obtain ⟨hb, of_env'⟩ := hb
  cases scope with
  | none =>
      cases scope' with
      | none => exact congrArg (Item.mk none) (Part.form_inj names ha hb h)
      | some envid =>
          refine absurd (congrArg Form.folders h) (part.folders_ne_envs ?_)
          simp [Part.folders_ne_nil (of_env' envid rfl).2]
  | some envid =>
      obtain ⟨he, ra⟩ := of_env envid rfl
      cases scope' with
      | none =>
          refine absurd (congrArg Form.folders h).symm (part'.folders_ne_envs ?_)
          simp [Part.folders_ne_nil ra]
      | some envid' =>
          obtain ⟨he', rb⟩ := of_env' envid' rfl
          obtain ⟨folders, stem, ending⟩ := Form.mk.inj (show Form.mk _ _ _ = Form.mk _ _ _ from h)
          replace folders := (List.cons.inj folders).2
          obtain rfl := separated.environment_eq he he' ha hb ra rb ending folders
          have form : part.form = part'.form :=
            Form.ext (List.append_cancel_left folders) stem ending
          exact congrArg (Item.mk (some envid)) (Part.form_inj names ha hb form)

/-! ## Places -/

variable {t : Files.Tree Document} {root : Path}

theorem Part.isName_folder (name : ∀ key ∈ keys, Path.IsName key) {part : Part}
    (h : part.Among keys benches) : ∀ folder ∈ part.form.folders, Path.IsName folder := by
  have fixed : Path.IsName "summaries" ∧ Path.IsName "panels" ∧ Path.IsName "pivots" := by decide
  cases part <;> simp_all [form, Among]

theorem Part.slash_not_mem_stem (name : ∀ key ∈ keys, Path.IsName key) {part : Part}
    (h : part.Among keys benches) : '/' ∉ part.form.stem.toList := by
  have no_slash : ∀ key ∈ keys, '/' ∉ key.toList := fun key hk => (name key hk).single
  cases part <;> simp_all [form, Among, slash_not_mem_fileStem]

theorem Part.isName_of_mem_place (name : ∀ key ∈ keys, Path.IsName key) {part : Part}
    (h : part.Among keys benches) : ∀ p ∈ part.place, Path.IsName p := by
  intro p hp
  rw [← names_form, Form.names, List.mem_append, List.mem_singleton] at hp
  obtain folder | rfl := hp
  · exact Part.isName_folder name h p folder
  · exact isName_append_ending (Part.slash_not_mem_stem name h) _

theorem slash_not_mem_environmentPlace (envid : String) :
    ∀ p ∈ environmentPlace envid, '/' ∉ p.toList := by
  intro p hp
  obtain rfl | rfl : p = "envs" ∨ p = fileStem envid := by simpa [environmentPlace] using hp
  · decide
  · exact slash_not_mem_fileStem envid

theorem slash_not_mem_scope (environment : Option String) :
    ∀ p ∈ scope environment, '/' ∉ p.toList := by
  cases environment with
  | none => exact nofun
  | some envid => exact slash_not_mem_environmentPlace envid

theorem settle_environmentPlace {envid : String} (proper : fileStem envid ≠ "..") (place : Place) :
    settle place (environmentPlace envid) = place ++ "envs" :: environmentFolders envid := by
  have envs : settleStep place "envs" = place ++ ["envs"] := settleStep_name rfl (by decide)
  rw [environmentPlace, settle_cons, settle_cons, settle_nil, envs]
  unfold environmentFolders
  split
  next idle => rw [settleStep_idle idle]
  next busy =>
    rw [settleStep_name (Bool.eq_false_iff.mpr busy) proper]
    simp

theorem Item.placeOf_within (name : ∀ key ∈ keys, Path.IsName key)
    (proper : ∀ envid ∈ environments, fileStem envid ≠ "..") {item : Item}
    (h : item.Among keys benches environments) :
    t.placeOf (Path.below root item.within) = t.placeOf root ++ item.form.names := by
  have part_names := Part.isName_of_mem_place name h.1
  have single : ∀ p ∈ item.within, '/' ∉ p.toList := by
    intro p hp
    rcases List.mem_append.mp hp with hp | hp
    · exact slash_not_mem_scope _ p hp
    · exact (part_names p hp).single
  rw [Tree.placeOf_below_singles single, Item.within, settle_append, settle_names part_names,
    ← Part.names_form]
  obtain ⟨environment, part⟩ := item
  cases environment with
  | none => rfl
  | some envid =>
      show settle _ (environmentPlace envid) ++ _ = _
      rw [settle_environmentPlace (proper envid (h.2 envid rfl).1)]
      simp [form, Form.names]

/-- Every place is of one document. -/
theorem place_injective (names : Distinguishable keys benches)
    (separated : Separated keys environments) {a b : Item} (ha : a.Among keys benches environments)
    (hb : b.Among keys benches environments)
    (h : t.placeOf (Path.below root a.within) = t.placeOf (Path.below root b.within)) : a = b := by
  rw [Item.placeOf_within names.name separated.proper ha,
    Item.placeOf_within names.name separated.proper hb, List.append_right_inj] at h
  exact Item.form_inj names separated ha hb (Form.names_injective h)

/-- However the names before it lead on, a document is put under a name with its ending. -/
theorem exists_placeOf_eq (t : Files.Tree Document) (root : Path) (within : List Path)
    (part : Part) : ∃ folder last,
      t.placeOf (Path.below root (within ++ part.place)) =
        folder ++ [last ++ part.form.ending.text] := by
  rw [← part.names_form, Form.names, ← List.append_assoc]
  generalize within ++ part.form.folders = folders
  have joined : ∃ front, Path.below root (folders ++ [part.form.stem ++ part.form.ending.text]) =
      front ++ part.form.ending.text := by
    rw [Path.below, List.foldl_append, List.foldl_cons, List.foldl_nil, Path.join]
    split
    · split
      · exact ⟨part.form.stem, rfl⟩
      · exact ⟨_, String.append_assoc.symm⟩
    · exact ⟨_, String.append_assoc.symm⟩
  obtain ⟨path, joined⟩ := joined
  obtain ⟨front, last, -, segments⟩ :=
    Path.segments_append_right part.form.ending.slash_not_mem path
  refine ⟨settle (t.origin (path ++ part.form.ending.text)) front, last, ?_⟩
  rw [joined, Tree.placeOf, segments, settle_append, settle_cons, settle_nil,
    settleStep_name (busy_append_ending _ _) (append_ending_ne (by decide) _ _)]

/-- Documents of one place have one ending. -/
theorem Part.ending_eq_of_placeOf_eq {a b : Part} (within within' : List Path)
    (h : t.placeOf (Path.below root (within ++ a.place)) =
      t.placeOf (Path.below root (within' ++ b.place))) : a.form.ending = b.form.ending := by
  obtain ⟨folder, last, place⟩ := exists_placeOf_eq t root within a
  obtain ⟨folder', last', place'⟩ := exists_placeOf_eq t root within' b
  rw [place, place'] at h
  have name := List.singleton_inj.mp (List.append_inj' h rfl).2
  exact (append_ending_inj name).2

/-! ## Keys and benchmarks of a report -/

variable {rows : List Observation} {metrics : List Metric} {part : Part}

theorem among_environmentParts (h : part ∈ environmentParts metrics rows) :
    part.Among (metrics.map (·.key)) (Reported rows metrics) ∧ part.repeated = true := by
  rw [environmentParts, List.mem_append, List.mem_flatMap] at h
  obtain ⟨m, hm, h⟩ | h := h
  · have key := List.mem_map_of_mem hm (f := (·.key))
    obtain ⟨_, ⟨bench, hb, rfl | rfl⟩ | rfl⟩ := mem_metricParts_iff.mp h
    · exact ⟨⟨key, reported_of_measured hm hb⟩, rfl⟩
    · exact ⟨⟨key, reported_of_measured hm hb⟩, rfl⟩
    · exact ⟨key, rfl⟩
  · obtain ⟨bench, reported, rfl⟩ := mem_panelParts_iff.mp h
    exact ⟨reported, rfl⟩

end Speedup.Report
