import Speedup.Proofs.Report.Places

/-!
# What is repeated for environments

The documents of an environment are put below a folder in `envs` that has its name. Only separators
are taken out of the name, so the folder is inside of `envs` for every name but one: `..` leads back
to the folder of the report, and the documents of that environment take the places of those of all
observations (`placeOf_environment_up`). Keys of metrics are not changed at all, and can lead out of
`envs` too. With neither of them nothing outside of `envs` depends on whether environments are
reported (`files_outside_environments`).
-/

namespace Speedup.Report

open Ordered Files
open Tables (fileStem)

variable {t : Files.Tree Document} {root : Path} {rows : List Observation} {metrics : List Metric}
  {baseline : String} {keys environments : List String} {benches : String → Prop} {part : Part}

/-- Neither names of environments nor keys of metrics lead back. -/
structure Inward (keys environments : List String) : Prop where
  environment : ∀ envid ∈ environments, fileStem envid ≠ ".."
  relative : ∀ key ∈ keys, Path.isAbsolute key = false
  key : ∀ key ∈ keys, ".." ∉ Path.segments key

/-! ## Paths of what is repeated -/

theorem segments_fileStem (name : String) : Path.segments (fileStem name) = [fileStem name] :=
  Path.segments_of_no_slash (slash_not_mem_fileStem name)

theorem relative_append_ending {s : String} (h : Path.isAbsolute s = false) (e : Ending) :
    Path.isAbsolute (s ++ e.text) = false := by
  by_cases none_there : s = ""
  · subst none_there
    cases e <;> rfl
  · rw [Path.isAbsolute_append none_there, h]

theorem Part.relative (relative : ∀ key ∈ keys, Path.isAbsolute key = false)
    (among : part.Among keys benches) (repeated : part.repeated = true) :
    ∀ p ∈ part.place, Path.isAbsolute p = false := by
  have folders : ∀ folder ∈ part.form.folders, Path.isAbsolute folder = false := by
    have fixed : Path.isAbsolute "summaries" = false ∧ Path.isAbsolute "panels" = false := by decide
    cases part <;> simp_all [form, Among, Part.repeated]
  have stem : Path.isAbsolute part.form.stem = false := by
    have master (key : String) : Path.isAbsolute ("MASTER_" ++ key) = false :=
      Path.isAbsolute_append (by decide) key
    have file (name : String) := Path.isAbsolute_of_no_slash (slash_not_mem_fileStem name)
    cases part <;> simp_all [form, Part.repeated]
  intro p hp
  rw [← names_form, Form.names, List.mem_append, List.mem_singleton] at hp
  obtain folder | rfl := hp
  · exact folders p folder
  · exact relative_append_ending stem _

theorem relative_environment (envid : String)
    (relative : ∀ key ∈ keys, Path.isAbsolute key = false) (among : part.Among keys benches)
    (repeated : part.repeated = true) :
    ∀ p ∈ environmentPlace envid ++ part.place, Path.isAbsolute p = false := by
  intro p hp
  rcases List.mem_append.mp hp with hp | hp
  · exact Path.isAbsolute_of_no_slash (slash_not_mem_environmentPlace envid p hp)
  · exact Part.relative relative among repeated p hp

theorem segments_master {key : String} (h : ".." ∉ Path.segments key) :
    ".." ∉ Path.segments ("MASTER_" ++ key) := by
  obtain ⟨first, rest, hk⟩ := List.exists_cons_of_ne_nil (Path.segments_ne_nil key)
  have other : "MASTER_" ++ first ≠ ".." := by
    intro same
    have head := congrArg (fun x => x.toList.head?) same
    simp at head
  rw [hk, List.mem_cons, not_or] at h
  rw [Path.segments_append_left (by decide) hk, List.mem_cons, not_or]
  exact ⟨Ne.symm other, h.2⟩

/-- Only what follows the last slash of a document's path could lead back. -/
theorem Part.inward (inward : ∀ key ∈ keys, ".." ∉ Path.segments key)
    (among : part.Among keys benches) (repeated : part.repeated = true) :
    ".." ∉ part.form.folders.flatMap Path.segments ++ (Path.segments part.form.stem).dropLast := by
  rw [List.mem_append, not_or]
  constructor
  · have fixed : ".." ∉ Path.segments "summaries" ∧ ".." ∉ Path.segments "panels" := by decide
    cases part <;> simp_all [form, Among, Part.repeated]
  · cases part with
    | box key bench | table key bench | panel bench => simp [form, segments_fileStem]
    | master key =>
        exact fun back => segments_master (inward key among) ((List.dropLast_sublist _).subset back)
    | _ => cases repeated

/-- Inside of a folder. -/
def Inside (folder place : Place) : Prop := folder <+: place ∧ place ≠ folder

theorem Inside.of_prefix {folder place : Place} (h : folder <+: place) (name : String) :
    Inside folder (place ++ [name]) := by
  refine ⟨h.trans (List.prefix_append _ _), ?_⟩
  intro same
  have length := h.length_le
  rw [← same, List.length_append, List.length_singleton] at length
  omega

/-- The documents of an environment are inside of `envs`. -/
theorem inside_environments (inward : Inward keys environments) {envid : String}
    (he : envid ∈ environments) (among : part.Among keys benches)
    (repeated : part.repeated = true) :
    Inside (t.placeOf root ++ ["envs"])
      (t.placeOf (Path.below root (environmentPlace envid ++ part.place))) := by
  have relative := relative_environment envid inward.relative among repeated
  obtain ⟨front, last, stem, file⟩ :=
    Path.segments_append_right part.form.ending.slash_not_mem part.form.stem
  have no_way_back := Part.inward inward.key among repeated
  rw [stem, List.dropLast_concat] at no_way_back
  have scope := Path.flatMap_segments_of_no_slash (slash_not_mem_environmentPlace envid)
  have place : part.place.flatMap Path.segments =
      part.form.folders.flatMap Path.segments ++ front ++ [last ++ part.form.ending.text] := by
    rw [← Part.names_form, Form.names, List.flatMap_append, List.flatMap_singleton, file,
      List.append_assoc]
  rw [Tree.placeOf_below relative, List.flatMap_append, scope, place, settle_append, settle_append,
    settle_environmentPlace (inward.environment envid he), settle_cons, settle_nil,
    settleStep_name (busy_append_ending last _) (append_ending_ne (by decide) last _)]
  refine Inside.of_prefix (List.IsPrefix.trans ?_ (prefix_settle no_way_back)) _
  exact ⟨environmentFolders envid, by simp⟩

/-- In an environment `..` the documents have the places of those of all observations. -/
theorem placeOf_environment_up {envid : String} (up : fileStem envid = "..")
    (relative : ∀ key ∈ keys, Path.isAbsolute key = false) (among : part.Among keys benches)
    (repeated : part.repeated = true) :
    t.placeOf (Path.below root (environmentPlace envid ++ part.place)) =
      t.placeOf (Path.below root part.place) := by
  have scope := Path.flatMap_segments_of_no_slash (slash_not_mem_environmentPlace envid)
  have back : settle (t.placeOf root) (environmentPlace envid) = t.placeOf root := by
    rw [environmentPlace, up]
    simp [settleStep, Path.isIdle]
  rw [Tree.placeOf_below (relative_environment envid relative among repeated),
    Tree.placeOf_below (Part.relative relative among repeated), List.flatMap_append,
    settle_append, scope, back]

/-! ## Files outside of `envs` -/

/-- The documents of environments are written inside of `envs`. -/
theorem places_environmentSteps (inward : Inward (metrics.map (·.key)) (Grouping.environments rows))
    {place : Place} (h : place ∈ Step.places t root
      ((Grouping.environments rows).flatMap (environmentSteps root rows metrics baseline))) :
    Inside (t.placeOf root ++ ["envs"]) place := by
  obtain ⟨within, written, rfl⟩ := List.mem_map.mp h
  rw [Step.written_flatMap, List.mem_flatMap] at written
  obtain ⟨envid, he, written⟩ := written
  rw [written_environmentSteps] at written
  obtain ⟨part, hp, rfl⟩ := List.mem_map.mp written
  obtain ⟨among, repeated⟩ := among_environmentParts hp
  exact inside_environments inward he among repeated

/-- Outside of `envs` a report leaves the same files with and without its environments. -/
theorem files_outside_environments (t : Files.Tree Document) (root : Path) (rows : List Observation)
    (metrics : List Metric) (baseline : String)
    (inward : Inward (metrics.map (·.key)) (Grouping.environments rows)) (place : Place)
    (outside : ¬ Inside (t.placeOf root ++ ["envs"]) place) :
    ((Progress.start t).run root (steps root rows metrics baseline true)).tree.fileAt? place =
      ((Progress.start t).run root (steps root rows metrics baseline false)).tree.fileAt?
        place := by
  have main := Progress.run_sameUpTo root (.start t) (mainSteps root rows metrics baseline)
  have more := Progress.run_sameUpTo root
    ((Progress.start t).run root (mainSteps root rows metrics baseline))
    ((Grouping.environments rows).flatMap (environmentSteps root rows metrics baseline))
  rw [Step.places_congr main] at more
  unfold steps
  rw [if_pos rfl, if_neg Bool.false_ne_true, List.append_nil, Progress.run_append]
  exact more.file place fun written => outside (places_environmentSteps inward written)

/-- Neither an environment without a name nor one named like a folder of the report changes the
table of a metric. -/
theorem files_outside_environments_two :
    let rows : List Observation :=
      [⟨"Sieve", "X", "s", "total", "ms", "", some 1, none, none, none⟩,
        ⟨"Sieve", "X", "s", "total", "ms", "summaries", some 3, none, none, none⟩]
    let place := ["home", "out", "summaries", "MASTER_time_ms.csv"]
    let t : Files.Tree Document := Tree.bare ["home"]
    Inward ["time_ms"] (Grouping.environments rows) ∧
    ¬ Inside (t.placeOf "out" ++ ["envs"]) place ∧
    ((Progress.start t).run "out" (steps "out" rows [.time] "X" true)).tree.fileAt? place =
      ((Progress.start t).run "out" (steps "out" rows [.time] "X" false)).tree.fileAt? place := by
  intro rows place t
  have inward : Inward ["time_ms"] (Grouping.environments rows) := by
    have proper : ∀ o ∈ rows, fileStem o.envid ≠ ".." := by decide
    refine ⟨?_, by decide, by decide⟩
    intro envid he
    obtain ⟨o, ho, rfl⟩ := Grouping.mem_environments_iff.mp he
    exact proper o ho
  have outside : ¬ Inside (t.placeOf "out" ++ ["envs"]) place :=
    fun inside => absurd inside.1 (by decide +kernel)
  exact ⟨inward, outside, files_outside_environments _ _ _ [.time] _ inward _ outside⟩

end Speedup.Report
