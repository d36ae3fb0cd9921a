import Speedup.Proofs.Report.Environments
import Speedup.Proofs.Report.Listing

/-!
# The folder of an environment

What is repeated for an environment is put together in the same way as for all observations, from
the rows of the environment alone: the rows are limited to the environment first, and metrics and
benchmarks are selected from what is left. So the folder of an environment holds, name for name,
what a report of only these rows has in its own folder, as far as that is repeated (`InScope`), and
nothing else (`mirrors_steps`).

An environment without a name, or with the name `.`, has no folder of its own below `envs`. If there
is one, the folder of an environment that is called like a metric, `panels` or `summaries` is not
its own either (`not_mirrors_steps`).
-/

namespace Speedup.Report

open Files Ordered
open Tables (fileStem)

variable {t t' : Files.Tree Document} {root root' : Path} {rows : List Observation}
  {metrics : List Metric} {baseline : String} {keys names : List String} {benches : String → Prop}
  {part : Part} {envid : String}

/-! ## One list of documents for every folder -/

def under (within : List Path) (d : List Path × Document) : List Path × Document :=
  (within ++ d.1, d.2)

theorem documents_boxSteps (within : List Path) (metric : Metric) (bench : String) :
    Step.documents (boxSteps within metric rows baseline bench) =
      (Step.documents (boxSteps [] metric rows baseline bench)).map (under within) := by
  unfold boxSteps
  split <;> rfl

theorem documents_benchSteps (within place : List Path) (bench : String) :
    Step.documents (benchSteps (within ++ place) rows baseline bench) =
      (Step.documents (benchSteps place rows baseline bench)).map (under within) := by
  unfold benchSteps
  dsimp only
  rw [Step.documents_append, Step.documents_append, Step.documents_map_eq_nil fun _ => rfl]
  rfl

/-- The documents of a metric are the same in every folder. -/
theorem documents_metricSteps (root root' : Path) (within : List Path) (metric : Metric) :
    Step.documents (metricSteps root within metric rows baseline) =
      (Step.documents (metricSteps root' [] metric rows baseline)).map (under within) := by
  unfold metricSteps
  split
  · rfl
  · unfold benchTables
    simp only [Step.documents_append, Step.documents_flatMap, List.map_append, List.map_flatMap,
      documents_boxSteps within, documents_benchSteps within, List.nil_append]
    rfl

theorem documents_panelSteps (within : List Path) (slices : List Chart.Slice) (bench : String) :
    Step.documents (panelSteps within slices bench) =
      (Step.documents (panelSteps [] slices bench)).map (under within) := by
  have panel (chart? : Option Chart) : Step.documents
      (chart?.map fun chart => Step.write (within ++ panelPlace bench) (.page chart)).toList =
      (Step.documents (chart?.map fun chart =>
        Step.write ([] ++ panelPlace bench) (.page chart)).toList).map (under within) := by
    cases chart? <;> rfl
  unfold panelSteps
  dsimp only
  rw [Step.documents_append, Step.documents_append, Step.documents_map_eq_nil fun _ => rfl]
  exact panel _

/-- What is repeated for environments, seen from its folder. -/
def scopeDocuments (rows : List Observation) (metrics : List Metric) (baseline : String) :
    List (List Path × Document) :=
  Step.documents (scopeSteps "" [] rows metrics baseline)

/-- What is repeated for environments is the same in every folder. -/
theorem documents_scopeSteps (root : Path) (within : List Path) (rows : List Observation)
    (metrics : List Metric) (baseline : String) :
    Step.documents (scopeSteps root within rows metrics baseline) =
      (scopeDocuments rows metrics baseline).map (under within) := by
  unfold scopeDocuments scopeSteps panelsSteps
  simp only [Step.documents_append, Step.documents_flatMap, List.map_append, List.map_flatMap,
    documents_metricSteps root "" within, documents_panelSteps within]

/-- A document that is repeated is one of a part that is. -/
theorem exists_part_of_mem {d : List Path × Document}
    (h : d ∈ scopeDocuments rows metrics baseline) :
    ∃ part ∈ environmentParts metrics rows, d.1 = part.form.names := by
  have path : d.1 ∈ Step.written (scopeSteps "" [] rows metrics baseline) := by
    rw [← Step.map_fst_documents]
    exact List.mem_map_of_mem h
  rw [written_scopeSteps] at path
  obtain ⟨part, hp, same⟩ := List.mem_map.mp path
  exact ⟨part, hp, by rw [← same, List.nil_append, part.names_form]⟩

/-- The documents that are repeated under some names, in their order. -/
def scopeDocumentsAt (rows : List Observation) (metrics : List Metric) (baseline : String)
    (names : List String) : List Document :=
  ((scopeDocuments rows metrics baseline).filter fun d => d.1 = names).map (·.2)

/-- In a folder that the names of all documents lead on from, each is put under its names. -/
theorem documentsAt_scopeSteps {within : List Path} {folder : Place}
    (leads : ∀ part ∈ environmentParts metrics rows,
      t.placeOf (Path.below root (within ++ part.form.names)) = folder ++ part.form.names)
    (names : List String) :
    Step.documentsAt t root (folder ++ names) (scopeSteps root within rows metrics baseline) =
      scopeDocumentsAt rows metrics baseline names := by
  unfold Step.documentsAt scopeDocumentsAt
  rw [documents_scopeSteps, List.filter_map, List.map_map]
  refine congrArg (List.map _) (List.filter_congr fun d hd => ?_)
  obtain ⟨part, hp, path⟩ := exists_part_of_mem hd
  simp only [Function.comp, under, path, leads part hp, List.append_right_inj]

/-! ## What is repeated -/

/-- The names of what is repeated for environments, seen from its folder. -/
inductive InScope (keys : List String) : List String → Prop
  | metric {key name : String} {rest : List String} (mem : key ∈ keys) :
      InScope keys (key :: name :: rest)
  | panel {name : String} {rest : List String} : InScope keys ("panels" :: name :: rest)
  | table {key name : String} {rest : List String} (mem : key ∈ keys) :
      InScope keys ("summaries" :: key :: name :: rest)
  | master {key : String} (mem : key ∈ keys) :
      InScope keys ["summaries", "MASTER_" ++ key ++ ".csv"]

theorem InScope.one_lt_length (h : InScope keys names) : 1 < names.length := by
  cases h <;> simp

theorem Part.inScope (h : part.Among keys benches) (repeated : part.repeated = true) :
    InScope keys part.form.names := by
  cases part with
  | box key bench => exact .metric h.1
  | table key bench => exact .table h.1
  | master key => exact .master h
  | panel bench => exact .panel
  | _ => cases repeated

/-- Nothing else has a name like what is repeated, if no key is called like a folder of the
report. -/
theorem Part.repeated_of_inScope (pivots : "pivots" ∉ keys) (summaries : "summaries" ∉ keys)
    (h : InScope keys part.form.names) : part.repeated = true := by
  generalize same : part.form.names = names at h
  cases h with
  | metric mem =>
      -- Only two kinds of files are in folders that could be called like a metric.
      cases part with
      | pivot key =>
          obtain ⟨rfl, _⟩ := List.cons.inj same
          exact absurd mem pivots
      | overall key =>
          obtain ⟨rfl, _⟩ := List.cons.inj same
          exact absurd mem summaries
      | box | table | master | panel => rfl
      | summary | detailed | dashboard | text => simp [form, Form.names] at same
  | panel => cases part <;> simp_all [form, Form.names, Part.repeated]
  | table => cases part <;> simp_all [form, Form.names, Part.repeated]
  | @master key' mem =>
      cases part with
      | overall key =>
          have stem :
              ("OVERALL_" ++ key) ++ Ending.csv.text = ("MASTER_" ++ key') ++ Ending.csv.text :=
            List.singleton_inj.mp (List.cons.inj same).2
          exact absurd (append_ending_inj stem).1.symm (master_ne_overall key' key)
      | box | table | master | panel => rfl
      | pivot | summary | detailed | dashboard | text => simp [form, Form.names] at same

/-- A report has nothing of its own below the folder of an environment. -/
theorem Part.names_ne_envs (part : Part) (folder name : String) (rest : List String) :
    part.form.names ≠ "envs" :: folder :: name :: rest := by
  cases part <;> simp [form, Form.names]

/-! ## Documents at a place -/

theorem documentsAt_eq_nil_of_parts {steps : List Step} {within : List Path} {parts : List Part}
    {place : Place} (written : Step.written steps = paths within parts)
    (apart : ∀ part ∈ parts, t.placeOf (Path.below root (within ++ part.place)) ≠ place) :
    Step.documentsAt t root place steps = [] := by
  rw [Step.documentsAt_eq_nil_iff, Step.places, written, paths, List.map_map, List.mem_map]
  rintro ⟨part, hp, same⟩
  exact apart part hp same

theorem Part.placeOf_place (name : ∀ key ∈ keys, Path.IsName key) (h : part.Among keys benches) :
    t.placeOf (Path.below root part.place) = t.placeOf root ++ part.form.names := by
  have among : (Item.mk none part).Among keys benches [] := ⟨h, by simp⟩
  have within : (Item.mk none part).within = part.place := rfl
  rw [← within, Item.placeOf_within name (by simp) among]
  rfl

theorem documentsAt_comparisonNotes (place : Place) (all : List MetricComparison) :
    Step.documentsAt t root place (comparisonNotes baseline all) = [] := by
  have none_written : Step.documents (comparisonNotes baseline all) = [] := by
    unfold comparisonNotes
    simp [Step.documents_map_eq_nil (f := Step.note) fun _ => rfl]
  rw [Step.documentsAt, none_written]
  rfl

section Folder

variable {m : Metric} (name : ∀ m ∈ metrics, Path.IsName m.key)
  (pivots : "pivots" ∉ metrics.map (·.key)) (summaries : "summaries" ∉ metrics.map (·.key))
  (scope : InScope (metrics.map (·.key)) names)

include name pivots summaries scope

/-- What is not repeated is put under other names. -/
theorem documentsAt_eq_nil_of_once {steps : List Step} {parts : List Part}
    (written : Step.written steps = paths [] parts) (once : ∀ part ∈ parts,
      part.Among (metrics.map (·.key)) (fun _ => True) ∧ part.repeated = false) :
    Step.documentsAt t root (t.placeOf root ++ names) steps = [] := by
  refine documentsAt_eq_nil_of_parts written fun part hp same => ?_
  obtain ⟨among, once⟩ := once part hp
  rw [List.nil_append, Part.placeOf_place (List.forall_mem_map.mpr name) among,
    List.append_right_inj] at same
  have repeated := Part.repeated_of_inScope pivots summaries (same ▸ scope)
  rw [once] at repeated
  cases repeated

/-- Of the values of a metric the medians are not repeated. -/
theorem documentsAt_valueSteps (hm : m ∈ metrics) :
    Step.documentsAt t root (t.placeOf root ++ names)
      (valueSteps root baseline (.ofRows rows baseline m)) =
    Step.documentsAt t root (t.placeOf root ++ names)
      (metricSteps root [] m (m.select rows) baseline) := by
  have pivot : Step.written (((Chart.pivot? m (Pivot.ofRows (m.select rows))).map
      (chartSteps (pivotPlace m.key))).getD []) = paths [] (pivotParts m (m.select rows)) := by
    unfold pivotParts
    cases Chart.pivot? m (Pivot.ofRows (m.select rows)) <;> rfl
  have elsewhere : Step.documentsAt t root (t.placeOf root ++ names)
      (((Chart.pivot? m (Pivot.ofRows (m.select rows))).map
        (chartSteps (pivotPlace m.key))).getD []) = [] := by
    refine documentsAt_eq_nil_of_once name pivots summaries scope pivot
      fun part hp => ?_
    rw [(mem_pivotParts_iff.mp hp).1]
    exact ⟨List.mem_map_of_mem hm, rfl⟩
  exact (Step.documentsAt_append _ _).trans
    ((congrArg (_ ++ ·) elsewhere).trans (List.append_nil _))

theorem documentsAt_rankingSteps (hm : m ∈ metrics) :
    Step.documentsAt t root (t.placeOf root ++ names)
      (rankingSteps (.ofRows rows baseline m)) = [] := by
  refine documentsAt_eq_nil_of_once name pivots summaries scope
    (written_rankingSteps rfl) fun part hp => ?_
  have key := List.mem_map_of_mem hm (f := (·.key))
  obtain ⟨rfl, _⟩ | rfl | rfl := mem_rankingParts_iff.mp hp <;> exact ⟨key, rfl⟩

theorem documentsAt_overallSteps (all : List MetricComparison) :
    Step.documentsAt t root (t.placeOf root ++ names) (overallSteps all) = [] := by
  refine documentsAt_eq_nil_of_once name pivots summaries scope
    (written_overallSteps all) fun part hp => ?_
  obtain rfl | rfl : part = .dashboard ∨ part = .text := by simpa using hp
  · exact ⟨trivial, rfl⟩
  · exact ⟨trivial, rfl⟩

/-- In the folder of a report only what is repeated is put under the names of what is repeated. -/
theorem documentsAt_mainSteps :
    Step.documentsAt t root (t.placeOf root ++ names) (mainSteps root rows metrics baseline) =
      scopeDocumentsAt rows metrics baseline names := by
  have leads : ∀ part ∈ environmentParts metrics rows,
      t.placeOf (Path.below root ([] ++ part.form.names)) = t.placeOf root ++ part.form.names := by
    intro part hp
    rw [List.nil_append, part.names_form, Part.placeOf_place (List.forall_mem_map.mpr name)
      (among_environmentParts hp).1, part.names_form]
  have values (m : Metric) (hm : m ∈ metrics) :
      Step.documentsAt t root (t.placeOf root ++ names)
        (valueSteps root baseline (.ofRows rows baseline m)) = _ :=
    documentsAt_valueSteps name pivots summaries scope hm
  have rankings (m : Metric) (hm : m ∈ metrics) :
      Step.documentsAt t root (t.placeOf root ++ names)
        (rankingSteps (.ofRows rows baseline m)) = [] :=
    documentsAt_rankingSteps name pivots summaries scope hm
  rw [← documentsAt_scopeSteps leads names]
  unfold mainSteps MetricComparison.all scopeSteps
  rw [Step.documentsAt_append, Step.documentsAt_append, Step.documentsAt_append,
    Step.documentsAt_append, Step.documentsAt_append, documentsAt_comparisonNotes,
    documentsAt_overallSteps name pivots summaries scope,
    Step.documentsAt_flatMap, Step.documentsAt_flatMap, Step.documentsAt_flatMap,
    List.flatMap_map, List.flatMap_map, List.flatMap_congr values,
    List.flatMap_eq_nil_iff.mpr rankings, List.append_nil, List.append_nil, List.nil_append]

end Folder

/-- Nothing of a report of all observations is put below the folder of an environment. -/
theorem documentsAt_mainSteps_envs (name : ∀ m ∈ metrics, Path.IsName m.key)
    (folder file : String) (rest : List String) :
    Step.documentsAt t root (t.placeOf root ++ "envs" :: folder :: file :: rest)
      (mainSteps root rows metrics baseline) = [] := by
  have keys : ∀ key ∈ metrics.map (·.key), Path.IsName key := List.forall_mem_map.mpr name
  refine documentsAt_eq_nil_of_parts written_mainSteps fun part hp => ?_
  rw [List.nil_append, Part.placeOf_place keys (among_mainParts hp), ne_eq,
    List.append_right_inj]
  exact part.names_ne_envs folder file rest

/-! ## The folder of an environment -/

theorem Part.placeOf_environment (name : ∀ key ∈ keys, Path.IsName key)
    (h : part.Among keys benches) (repeated : part.repeated = true)
    (proper : fileStem envid ≠ "..") :
    t.placeOf (Path.below root (environmentPlace envid ++ part.place)) =
      t.placeOf root ++ "envs" :: (environmentFolders envid ++ part.form.names) := by
  have among : (Item.mk (some envid) part).Among keys benches [envid] := ⟨h, by simp [repeated]⟩
  have within : (Item.mk (some envid) part).within = environmentPlace envid ++ part.place := rfl
  rw [← within, Item.placeOf_within name (by simpa using proper) among]
  simp [Item.form, Form.names]

theorem Part.folder_of_repeated (h : part.Among keys benches) (repeated : part.repeated = true)
    {folder name : String} {rest : List String} (names : part.form.names = folder :: name :: rest) :
    folder ∈ "panels" :: "summaries" :: keys := by
  cases part with
  | box key bench =>
      obtain ⟨rfl, _⟩ := List.cons.inj names
      simp [h.1]
  | table | master | panel =>
      obtain ⟨rfl, _⟩ := List.cons.inj names
      simp
  | _ => cases repeated

/-- A folder below `envs` is that of one environment alone: no other one has its name, and if it is
called like something that is repeated, none has the folder `envs` itself. -/
structure Alone (keys : List String) (rows : List Observation) (envid : String) : Prop where
  name : Path.IsName (fileStem envid)
  stem : ∀ o ∈ rows, fileStem o.envid = fileStem envid → o.envid = envid
  housed : fileStem envid ∈ "panels" :: "summaries" :: keys →
    ∀ o ∈ rows, Path.isIdle (fileStem o.envid) = false

/-- No other environment has a document below the folder of one that is alone. -/
theorem Alone.placeOf_ne (alone : Alone keys rows envid) (name : ∀ key ∈ keys, Path.IsName key)
    {o : Observation} (ho : o ∈ rows) (other : o.envid ≠ envid) (h : part.Among keys benches)
    (repeated : part.repeated = true) (file : String) (rest : List String) :
    t.placeOf (Path.below root (environmentPlace o.envid ++ part.place)) ≠
      t.placeOf root ++ "envs" :: fileStem envid :: file :: rest := by
  by_cases up : fileStem o.envid = ".."
  · have relative : ∀ key ∈ keys, Path.isAbsolute key = false := fun key hk =>
      Path.isAbsolute_of_no_slash (name key hk).single
    rw [placeOf_environment_up up relative h repeated, Part.placeOf_place name h, ne_eq,
      List.append_right_inj]
    exact part.names_ne_envs _ file rest
  · rw [Part.placeOf_environment name h repeated up, ne_eq, List.append_right_inj,
      List.cons_inj_right]
    unfold environmentFolders
    split
    next idle =>
      intro same
      have folder := Part.folder_of_repeated h repeated (by simpa using same)
      rw [alone.housed folder o ho] at idle
      cases idle
    · intro same
      obtain ⟨stem, _⟩ := List.cons.inj same
      exact other (alone.stem o ho stem)

theorem scopeDocuments_nil (metrics : List Metric) (baseline : String) :
    scopeDocuments [] metrics baseline = [] := by
  rw [List.eq_nil_iff_forall_not_mem]
  intro d hd
  obtain ⟨part, hp, _⟩ := exists_part_of_mem hd
  rw [environmentParts, List.mem_append, List.mem_flatMap] at hp
  obtain ⟨m, _, hp⟩ | hp := hp
  · exact (mem_metricParts_iff.mp hp).1 rfl
  · obtain ⟨bench, ⟨m, _, o, ho, _⟩, _⟩ := mem_panelParts_iff.mp hp
    cases ho

/-- Below the folder of an environment that is alone a report puts what is repeated of its rows, and
nothing else. -/
theorem documentsAt_steps_environment (name : ∀ m ∈ metrics, Path.IsName m.key)
    (alone : Alone (metrics.map (·.key)) rows envid) (file : String) (rest : List String) :
    Step.documentsAt t root (t.placeOf root ++ "envs" :: fileStem envid :: file :: rest)
      (steps root rows metrics baseline true) =
      scopeDocumentsAt (Observation.ofEnvironment envid rows) metrics baseline (file :: rest) := by
  have keys : ∀ key ∈ metrics.map (·.key), Path.IsName key := List.forall_mem_map.mpr name
  have others : ∀ envid' ∈ Grouping.environments rows, envid' ≠ envid →
      Step.documentsAt t root (t.placeOf root ++ "envs" :: fileStem envid :: file :: rest)
        (environmentSteps root rows metrics baseline envid') = [] := by
    intro envid' he other
    obtain ⟨o, ho, rfl⟩ := Grouping.mem_environments_iff.mp he
    refine documentsAt_eq_nil_of_parts written_environmentSteps fun part hp => ?_
    obtain ⟨among, repeated⟩ := among_environmentParts hp
    exact alone.placeOf_ne keys ho other among repeated file rest
  have own : Step.documentsAt t root
      (t.placeOf root ++ "envs" :: fileStem envid :: file :: rest)
      (environmentSteps root rows metrics baseline envid) =
      scopeDocumentsAt (Observation.ofEnvironment envid rows) metrics baseline (file :: rest) := by
    have folder : t.placeOf root ++ "envs" :: fileStem envid :: file :: rest =
        (t.placeOf root ++ ["envs", fileStem envid]) ++ file :: rest := by simp
    rw [folder]
    refine documentsAt_scopeSteps (fun part hp => ?_) _
    obtain ⟨among, repeated⟩ := among_environmentParts hp
    rw [part.names_form, Part.placeOf_environment keys among repeated alone.name.proper,
      part.names_form]
    simp [environmentFolders, alone.name.busy]
  have once : (Grouping.environments rows).Nodup := (ascending_distinct _).nodup
  unfold steps
  rw [if_pos rfl, Step.documentsAt_append, documentsAt_mainSteps_envs name, List.nil_append,
    Step.documentsAt_flatMap, flatMap_eq_of_only once others, own]
  split
  · rfl
  next absent =>
    have no_rows : Observation.ofEnvironment envid rows = [] := by
      rw [List.eq_nil_iff_forall_not_mem]
      intro o ho
      obtain ⟨there, same⟩ := Observation.mem_ofEnvironment.mp ho
      exact absent (Grouping.mem_environments_iff.mpr ⟨o, there, same⟩)
    rw [no_rows, scopeDocumentsAt, scopeDocuments_nil]
    rfl

/-! ## Two reports -/

/-- What a run leaves below a folder is what another run leaves below another one, as far as it is
repeated for environments, and nothing else. Both runs put the same document under a name, or none,
which leaves what was there before. -/
structure Mirrors (keys : List String) (before after : Files.Tree Document) (folder : Place)
    (before' after' : Files.Tree Document) (folder' : Place) : Prop where
  repeated : ∀ names, InScope keys names → ∃ document : Option Document,
    after.fileAt? (folder ++ names) = document.or (before.fileAt? (folder ++ names)) ∧
    after'.fileAt? (folder' ++ names) = document.or (before'.fileAt? (folder' ++ names))
  only : ∀ name rest, ¬ InScope keys (name :: rest) →
    after.fileAt? (folder ++ name :: rest) = before.fileAt? (folder ++ name :: rest)

/-- What one run puts below its folder is below the other one too. -/
theorem Mirrors.isSome {before after before' after' : Files.Tree Document} {folder folder' : Place}
    (h : Mirrors keys before after folder before' after' folder') (scope : InScope keys names)
    (vacant : before'.fileAt? (folder' ++ names) = none)
    (there : (after'.fileAt? (folder' ++ names)).isSome) :
    (after.fileAt? (folder ++ names)).isSome := by
  obtain ⟨document, here, same⟩ := h.repeated names scope
  rw [same, vacant, Option.or_none] at there
  rw [here, Option.isSome_or, there, Bool.true_or]

theorem scopeDocumentsAt_eq_nil (apart : ¬ InScope (metrics.map (·.key)) names) :
    scopeDocumentsAt rows metrics baseline names = [] := by
  rw [scopeDocumentsAt, List.map_eq_nil_iff, List.filter_eq_nil_iff]
  intro d hd
  obtain ⟨part, hp, path⟩ := exists_part_of_mem hd
  obtain ⟨among, repeated⟩ := among_environmentParts hp
  rw [path, decide_eq_true_eq]
  rintro rfl
  exact apart (Part.inScope among repeated)

/-- The folder of an environment holds what a report of its rows alone has, as far as it is repeated
for environments, and nothing else. -/
theorem mirrors_steps (t t' : Files.Tree Document) (root root' : Path) (rows : List Observation)
    (metrics : List Metric) (baseline envid : String) (name : ∀ m ∈ metrics, Path.IsName m.key)
    (pivots : "pivots" ∉ metrics.map (·.key)) (summaries : "summaries" ∉ metrics.map (·.key))
    (alone : Alone (metrics.map (·.key)) rows envid)
    (done : ((Progress.start t).run root (steps root rows metrics baseline true)).failure = none)
    (done' : ((Progress.start t').run root' (steps root' (Observation.ofEnvironment envid rows)
      metrics baseline false)).failure = none) :
    Mirrors (metrics.map (·.key))
      t ((Progress.start t).run root (steps root rows metrics baseline true)).tree
      (t.placeOf root ++ ["envs", fileStem envid])
      t' ((Progress.start t').run root' (steps root' (Observation.ofEnvironment envid rows)
        metrics baseline false)).tree (t'.placeOf root') := by
  have whole (file : String) (rest : List String) :
      ((Progress.start t).run root (steps root rows metrics baseline true)).tree.fileAt?
        (t.placeOf root ++ ["envs", fileStem envid] ++ file :: rest) =
      (scopeDocumentsAt (Observation.ofEnvironment envid rows) metrics baseline
        (file :: rest)).getLast?.or
          (t.fileAt? (t.placeOf root ++ ["envs", fileStem envid] ++ file :: rest)) := by
    rw [Progress.fileAt?_run rfl done, ← documentsAt_steps_environment name alone file rest,
      List.append_assoc]
    rfl
  constructor
  · intro names scope
    obtain ⟨file, rest, rfl⟩ : ∃ file rest, names = file :: rest := by
      cases scope <;> exact ⟨_, _, rfl⟩
    refine ⟨_, whole file rest, ?_⟩
    rw [Progress.fileAt?_run rfl done', ← documentsAt_mainSteps name pivots summaries scope, steps,
      if_neg Bool.false_ne_true, List.append_nil]
    rfl
  · intro file rest apart
    rw [whole file rest, scopeDocumentsAt_eq_nil apart]
    rfl

/-- Two environments, one of which is called like the metric. -/
theorem mirrors_steps_two :
    let rows : List Observation :=
      [⟨"a/b", "X", "s", "c", "u", "t", some 1, none, none, none⟩,
        ⟨"d", "X", "s", "c", "u", "2", some 2, none, none, none⟩]
    let metrics : List Metric := [⟨"t", "c", "u", "", "", 0⟩]
    let t : Files.Tree Document := Tree.bare []
    let whole := steps "o" rows metrics "X" true
    let own := steps "p" (Observation.ofEnvironment "t" rows) metrics "X" false
    (∀ m ∈ metrics, Path.IsName m.key) ∧
    "pivots" ∉ metrics.map (·.key) ∧ "summaries" ∉ metrics.map (·.key) ∧
    Alone (metrics.map (·.key)) rows "t" ∧
    ((Progress.start t).run "o" whole).failure = none ∧
    ((Progress.start t).run "p" own).failure = none ∧
    Mirrors (metrics.map (·.key))
      t ((Progress.start t).run "o" whole).tree (t.placeOf "o" ++ ["envs", fileStem "t"])
      t ((Progress.start t).run "p" own).tree (t.placeOf "p") := by
  intro rows metrics t whole own
  have name : ∀ m ∈ metrics, Path.IsName m.key := by decide
  have alone : Alone (metrics.map (·.key)) rows "t" := ⟨by decide, by decide, by decide⟩
  have housed : ∀ o ∈ rows, Plain (fileStem o.envid) := by decide
  have done : ((Progress.start t).run "o" whole).failure = none :=
    failure_steps_eq_none (Plain.ground (by decide)) rows metrics "X" true (by decide) (by decide)
      fun _ o ho => .inr (housed o ho)
  have done' : ((Progress.start t).run "p" own).failure = none :=
    failure_steps_eq_none (Plain.ground (by decide)) (Observation.ofEnvironment "t" rows) metrics
      "X" false (by decide) (by decide) nofun
  exact ⟨name, by decide, by decide, alone, done, done',
    mirrors_steps t t "o" "p" rows metrics "X" "t" name (by decide) (by decide) alone done done'⟩

/-- A document of a run that does not fail is in its place. -/
theorem isSome_fileAt?_of_mem {environments : Bool}
    (done : ((Progress.start t).run root
      (steps root rows metrics baseline environments)).failure = none) {item : Item}
    (mem : item ∈ items rows metrics baseline environments) :
    (((Progress.start t).run root (steps root rows metrics baseline environments)).tree.fileAt?
      (t.placeOf (Path.below root item.within))).isSome := by
  have place : t.placeOf (Path.below root item.within) ∈
      Step.places t root (steps root rows metrics baseline environments) := by
    rw [places_eq]
    exact List.mem_map_of_mem mem
  have there := mt Step.documentsAt_eq_nil_iff.mp (not_not_intro place)
  rw [Progress.fileAt?_run rfl done, Option.isSome_or, Bool.or_eq_true, List.getLast?_isSome]
  exact .inl there

/-- An environment without a folder of its own puts its panels where an environment `panels` has its
folder. -/
theorem isSome_fileAt?_panel_of_idle {m : Metric} {bench : String}
    (name : ∀ m ∈ metrics, Path.IsName m.key) (idle : Path.isIdle (fileStem envid) = true)
    (metric : m ∈ metrics) (value : HasValue (Observation.ofEnvironment envid rows) m bench)
    (done : ((Progress.start t).run root (steps root rows metrics baseline true)).failure = none) :
    (((Progress.start t).run root (steps root rows metrics baseline true)).tree.fileAt?
      (t.placeOf root ++ ["envs", "panels", fileStem bench ++ ".html"])).isSome := by
  have shown := value.panel_mem metric
  obtain ⟨o, ho, _⟩ := value
  obtain ⟨there, same⟩ := Observation.mem_ofEnvironment.mp ho
  have panel : ⟨some envid, .panel bench⟩ ∈ items rows metrics baseline true :=
    mem_items_iff.mpr (.inr ⟨rfl, envid, Grouping.mem_environments_iff.mpr ⟨o, there, same⟩, rfl,
      shown⟩)
  have proper : fileStem envid ≠ ".." := by
    intro up
    rw [up] at idle
    exact absurd idle (by decide)
  have place : t.placeOf (Path.below root (Item.mk (some envid) (.panel bench)).within) =
      t.placeOf root ++ ["envs", "panels", fileStem bench ++ ".html"] := by
    refine (Part.placeOf_environment (List.forall_mem_map.mpr name)
      (among_environmentParts shown).1 rfl proper).trans ?_
    rw [environmentFolders, if_pos idle]
    rfl
  rw [← place]
  exact isSome_fileAt?_of_mem done panel

/-- A document with a name that is too long stops a report before it comes to environments. -/
theorem fileAt?_environment_of_long (name : ∀ m ∈ metrics, Path.IsName m.key)
    (mem : part ∈ mainParts rows metrics baseline)
    (long : ¬ Tree.Fits (part.form.stem ++ part.form.ending.text))
    (folder file : String) (rest : List String) :
    ((Progress.start t).run root (steps root rows metrics baseline true)).tree.fileAt?
      (t.placeOf root ++ "envs" :: folder :: file :: rest) =
      t.fileAt? (t.placeOf root ++ "envs" :: folder :: file :: rest) := by
  have keys : ∀ key ∈ metrics.map (·.key), Path.IsName key := List.forall_mem_map.mpr name
  have single := Part.slash_not_mem_stem keys (among_mainParts mem)
  have file_name := isName_append_ending single part.form.ending
  have there := Path.mem_segments_below file_name.single root part.form.folders
  have stopped :
      ((Progress.start t).run root (mainSteps root rows metrics baseline)).failure.isSome := by
    rw [Option.isSome_iff_ne_none]
    intro done
    refine long (Progress.fits_of_run rfl done ?_ _ there)
    rw [written_mainSteps]
    exact List.mem_map.mpr ⟨part, mem, part.names_form.symm⟩
  have same := Progress.run_sameUpTo root (.start t) (mainSteps root rows metrics baseline)
  rw [steps, Progress.run_append, Progress.run_of_failure stopped]
  exact same.file _
    (Step.documentsAt_eq_nil_iff.mp (documentsAt_mainSteps_envs name folder file rest))

/-- Two folders that are not like reports of their rows: `envs/panels`, where the panels of an
environment without a name are put, and that of an environment before which a report is stopped by a
benchmark of another one. -/
theorem not_mirrors_steps :
    let row (bench criterion envid : String) : Observation :=
      ⟨bench, "X", "s", criterion, "u", envid, some 1, none, none, none⟩
    let metrics : List Metric := [⟨"t", "c", "u", "", "", 0⟩]
    let t : Files.Tree Document := Tree.bare []
    let whole (rows : List Observation) := steps "o" rows metrics "X" true
    let own (rows : List Observation) (envid : String) :=
      steps "o" (Observation.ofEnvironment envid rows) metrics "X" false
    let mirrors (rows : List Observation) (envid : String) : Prop :=
      Mirrors (metrics.map (·.key))
        t ((Progress.start t).run "o" (whole rows)).tree (t.placeOf "o" ++ ["envs", fileStem envid])
        t ((Progress.start t).run "o" (own rows envid)).tree (t.placeOf "o")
    let apart (rows : List Observation) (envid : String) : Prop := Path.IsName (fileStem envid) ∧
      ∀ o ∈ rows, fileStem o.envid = fileStem envid → o.envid = envid
    let unnamed := [row "A" "c" "", row "A" "d" "panels"]
    let long := [row "A" "c" "1", row (String.ofList (List.replicate 300 'b')) "c" "2"]
    (apart unnamed "panels" ∧ ((Progress.start t).run "o" (whole unnamed)).failure = none ∧
      ¬ mirrors unnamed "panels") ∧
    (apart long "1" ∧ ((Progress.start t).run "o" (own long "1")).failure = none ∧
      ¬ mirrors long "1") := by
  intro row metrics t whole own mirrors apart unnamed long
  have name : ∀ m ∈ metrics, Path.IsName m.key := by decide
  have nothing (place : Place) : t.fileAt? place = none := Tree.fileAt?_bare _ _
  refine ⟨⟨⟨by decide, by decide⟩, ?_⟩, ⟨by decide, by decide⟩, ?_⟩
  · have done : ((Progress.start t).run "o" (whole unnamed)).failure = none :=
      failure_steps_eq_none (Plain.ground (by decide)) unnamed metrics "X" true (by decide)
        (by decide) fun _ => by decide
    have value : HasValue (Observation.ofEnvironment "" unnamed) ⟨"t", "c", "u", "", "", 0⟩ "A" :=
      ⟨row "A" "c" "", by decide, by decide, rfl, rfl⟩
    refine ⟨done, fun h => ?_⟩
    have there := isSome_fileAt?_panel_of_idle name (by decide) (by decide) value done
    have apart : ¬ InScope (metrics.map (·.key)) ["A.html"] := fun scope =>
      absurd scope.one_lt_length (by decide)
    have folder : t.placeOf "o" ++ ["envs", "panels", fileStem "A" ++ ".html"] =
        t.placeOf "o" ++ ["envs", fileStem "panels"] ++ ["A.html"] := by decide +kernel
    rw [folder, h.only "A.html" [] apart, nothing] at there
    cases there
  · have done : ((Progress.start t).run "o" (own long "1")).failure = none :=
      failure_steps_eq_none (Plain.ground (by decide)) (Observation.ofEnvironment "1" long) metrics
        "X" false (by decide) (by decide) nofun
    have value : HasValue (Observation.ofEnvironment "1" long) ⟨"t", "c", "u", "", "", 0⟩ "A" :=
      ⟨row "A" "c" "1", by decide, by decide, rfl, rfl⟩
    have box : ⟨none, .box "t" "A"⟩ ∈
        items (Observation.ofEnvironment "1" long) metrics "X" false :=
      mem_items_iff.mpr (.inl ⟨rfl, mem_mainParts_iff.mpr (.inl (value.box_mem (by decide)))⟩)
    have place : t.placeOf (Path.below "o" (Item.mk none (.box "t" "A")).within) =
        t.placeOf "o" ++ ["t", "A.html"] := by decide +kernel
    refine ⟨done, fun h => ?_⟩
    have there := isSome_fileAt?_of_mem done box
    rw [place] at there
    have copied := h.isSome (.metric (by decide)) (nothing _) there
    have other :
        HasValue long ⟨"t", "c", "u", "", "", 0⟩ (String.ofList (List.replicate 300 'b')) :=
      ⟨row _ "c" "2", .tail _ (.head _), by decide, rfl, rfl⟩
    have too_long : ¬ Tree.Fits
        (fileStem (String.ofList (List.replicate 300 'b')) ++ Ending.html.text) := by
      have stem : fileStem (String.ofList (List.replicate 300 'b')) =
          String.ofList (List.replicate 300 'b') := by
        rw [fileStem, String.toList_ofList, List.map_replicate]
        rfl
      rw [stem, Tree.Fits]
      decide +kernel
    have stopped : ((Progress.start t).run "o" (whole long)).tree.fileAt?
        (t.placeOf "o" ++ "envs" :: fileStem "1" :: "t" :: ["A.html"]) = t.fileAt? _ :=
      fileAt?_environment_of_long name (mem_mainParts_iff.mpr (.inl (other.box_mem (by decide))))
        too_long (fileStem "1") "t" ["A.html"]
    have folder : t.placeOf "o" ++ ["envs", fileStem "1"] ++ ["t", "A.html"] =
        t.placeOf "o" ++ "envs" :: fileStem "1" :: "t" :: ["A.html"] := by simp
    rw [folder, stopped, nothing] at copied
    cases copied

end Speedup.Report
