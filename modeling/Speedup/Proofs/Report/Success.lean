import Speedup.Proofs.Files.Contents
import Speedup.Proofs.Files.Making
import Speedup.Proofs.Report.Kept

/-!
# Reports that cannot fail

A report asks nothing of its observations. Metrics without a row, benchmarks without a value and a
baseline that was never observed all leave out documents, and none of them is a failure. What can
stop a report is a document that cannot be written, and in an empty folder every document can, if
names are short and no folder has the name of a file (`failure_steps_eq_none`).
-/

namespace Speedup.Report

open Files Ordered
open Tables (fileStem)

variable {t : Files.Tree Document} {base : List String} {rows : List Observation}
  {metrics : List Metric} {baseline : String} {keys environments : List String}
  {part : Part} {item : Item}

/-! ## Short names -/

/-- A name that leaves room for others in the name of a file and in a path. -/
structure Modest (name : String) : Prop where
  no_zero : '\x00' ∉ name.toList
  size : name.utf8ByteSize ≤ 200

/-- A short name of a folder that is the name of no document. -/
structure Plain (name : String) : Prop where
  proper : Path.IsName name
  no_dot : '.' ∉ name.toList
  modest : Modest name

instance (name : String) : Decidable (Modest name) :=
  decidable_of_iff ('\x00' ∉ name.toList ∧ name.utf8ByteSize ≤ 200)
    ⟨fun h => ⟨h.1, h.2⟩, fun h => ⟨h.no_zero, h.size⟩⟩

instance (name : String) : Decidable (Plain name) :=
  decidable_of_iff (Path.IsName name ∧ '.' ∉ name.toList ∧ Modest name)
    ⟨fun h => ⟨h.1, h.2.1, h.2.2⟩, fun h => ⟨h.proper, h.no_dot, h.modest⟩⟩

/-- Benchmarks with short names of files. -/
def Benches (bench : String) : Prop := Modest (fileStem bench)

/-- An environment whose folder has a short name, or none of its own. -/
def Housed (envid : String) : Prop := fileStem envid = "" ∨ Plain (fileStem envid)

instance (envid : String) : Decidable (Housed envid) :=
  inferInstanceAs (Decidable (fileStem envid = "" ∨ Plain (fileStem envid)))

theorem Part.plain_of_mem_folders (plain : ∀ key ∈ keys, Plain key) (h : part.Among keys Benches) :
    ∀ folder ∈ part.form.folders, Plain folder := by
  have fixed : Plain "summaries" ∧ Plain "panels" ∧ Plain "pivots" := by decide
  cases part <;> simp_all [form, Among]

theorem Housed.plain_of_mem {envid : String} (housed : Housed envid) :
    ∀ folder ∈ environmentFolders envid, Plain folder := by
  intro folder hf
  unfold environmentFolders at hf
  split at hf
  · cases hf
  next busy =>
    rw [List.mem_singleton] at hf
    subst hf
    exact housed.resolve_left fun nothing => busy (by rw [nothing]; rfl)

theorem Item.plain_of_mem_folders (plain : ∀ key ∈ keys, Plain key)
    (housed : ∀ envid ∈ environments, Housed envid)
    (h : item.Among keys Benches environments) :
    ∀ folder ∈ item.form.folders, Plain folder := by
  obtain ⟨environment, part⟩ := item
  have own := Part.plain_of_mem_folders plain h.1
  cases environment with
  | none => exact own
  | some envid =>
      have envs : Plain "envs" := by decide
      have folders := (housed envid (h.2 envid rfl).1).plain_of_mem
      intro folder hf
      have parts : folder = "envs" ∨ folder ∈ environmentFolders envid ∨
          folder ∈ part.form.folders := by simpa [form] using hf
      obtain rfl | hf | hf := parts
      · exact envs
      · exact folders folder hf
      · exact own folder hf

theorem Part.stem_fits (plain : ∀ key ∈ keys, Plain key) (h : part.Among keys Benches) :
    '\x00' ∉ part.form.stem.toList ∧ part.form.stem.utf8ByteSize ≤ 217 := by
  have key_modest : ∀ key ∈ keys, '\x00' ∉ key.toList ∧ key.utf8ByteSize ≤ 200 :=
    fun key hk => ⟨(plain key hk).modest.no_zero, (plain key hk).modest.size⟩
  have fixed : "MASTER_".utf8ByteSize = 7 ∧ "OVERALL_".utf8ByteSize = 8 ∧
      "summary_".utf8ByteSize = 8 ∧ "_detailed".utf8ByteSize = 9 := by decide
  cases part with
  | box key bench | table key bench => exact ⟨h.2.no_zero, h.2.size.trans (by decide)⟩
  | panel bench => exact ⟨h.no_zero, h.size.trans (by decide)⟩
  | dashboard | text => decide
  | pivot key => exact ⟨(key_modest key h).1, (key_modest key h).2.trans (by decide)⟩
  | master key | overall key | summary key | detailed key =>
      obtain ⟨no_zero, size⟩ := key_modest key h
      simp only [form, String.toList_append, String.utf8ByteSize_append, List.mem_append, no_zero]
      exact ⟨by decide, by omega⟩

structure Item.Fitting (item : Item) : Prop where
  folder : ∀ folder ∈ item.form.folders, Plain folder
  file : Path.IsName (item.form.stem ++ item.form.ending.text)
  no_zero : '\x00' ∉ (item.form.stem ++ item.form.ending.text).toList
  size : (item.form.stem ++ item.form.ending.text).utf8ByteSize ≤ Tree.maxNameLength
  depth : item.form.folders.length ≤ 4

theorem Item.fitting (plain : ∀ key ∈ keys, Plain key)
    (housed : ∀ envid ∈ environments, Housed envid)
    (h : item.Among keys Benches environments) : item.Fitting := by
  have stem : item.form.stem = item.part.form.stem := by
    obtain ⟨_ | envid, part⟩ := item <;> rfl
  obtain ⟨no_zero, size⟩ := Part.stem_fits plain h.1
  rw [← stem] at no_zero size
  have ending : '\x00' ∉ item.form.ending.text.toList ∧ item.form.ending.text.utf8ByteSize ≤ 5 := by
    cases item.form.ending <;> decide
  refine ⟨Item.plain_of_mem_folders plain housed h, ?_, ?_, ?_, ?_⟩
  · rw [stem]
    exact isName_append_ending (Part.slash_not_mem_stem (fun key hk => (plain key hk).proper) h.1) _
  · rw [String.toList_append, List.mem_append, not_or]
    exact ⟨no_zero, ending.1⟩
  · rw [String.utf8ByteSize_append, show Tree.maxNameLength = 255 from rfl]
    omega
  · have own : item.part.form.folders.length ≤ 2 := by cases item.part <;> simp [Part.form]
    obtain ⟨_ | envid, part⟩ := item
    · exact own.trans (by decide)
    · have one : (environmentFolders envid).length ≤ 1 := by
        unfold environmentFolders
        split <;> simp
      simp only [form, List.length_cons, List.length_append] at own ⊢
      omega

/-! ## Room for a report -/

/-- A place for a report: its folder can be made, and nothing is below it. -/
structure Ground (t : Files.Tree Document) (base : List String) : Prop where
  writable : Path.Writable base
  size : (Path.ofNames base).utf8ByteSize ≤ 2500
  here : t.at? t.working = some .folder
  clear : Tree.Clear t t.working base
  vacant : ∀ name rest, t.at? (t.working ++ (base ++ name :: rest)) = none

theorem ground_bare (writable : Path.Writable base)
    (size : (Path.ofNames base).utf8ByteSize ≤ 2500) : Ground (Tree.bare []) base where
  writable := writable
  size := size
  here := rfl
  clear := fun _ _ => Tree.fileAt?_bare _ _
  vacant := by
    intro name rest
    obtain ⟨first, others, place⟩ : ∃ first others, base ++ name :: rest = first :: others :=
      List.exists_cons_of_ne_nil (by simp)
    rw [place]
    show (Tree.bare []).at? (first :: others) = none
    simp [Tree.at?, Tree.bare, Table.get?_ofList, Table.valuesUnder]

/-- A folder with a short name, where nothing else is. -/
theorem Plain.ground {root : String} (plain : Plain root) : Ground (Tree.bare []) [root] := by
  have alone : Path.ofNames [root] = root := rfl
  have size := plain.modest.size
  refine ground_bare ⟨?_, ?_, ?_, ?_⟩ (by rw [alone]; omega)
  · simpa using plain.proper
  · simpa [Tree.maxNameLength] using (by omega : root.utf8ByteSize ≤ 255)
  · simpa using plain.modest.no_zero
  · rw [alone, Tree.maxPathLength]
    omega

theorem Ground.clear_below (ground : Ground t base) (more : List String) :
    Tree.Clear t t.working (base ++ more) := by
  intro front hf
  obtain inside | ⟨rest, rfl⟩ :=
    List.prefix_or_prefix_of_prefix hf (List.prefix_append base more)
  · exact ground.clear front inside
  · cases rest with
    | nil => exact ground.clear _ (by simp)
    | cons name rest => exact Tree.fileAt?_eq_none_of (by simp [ground.vacant])

theorem Ground.room (ground : Ground t base) (files : List Form) :
    Room t (files.map fun file => base ++ file.names) where
  here := ground.here
  clear := by
    intro names name among
    obtain ⟨file, _, same⟩ := List.mem_map.mp among
    rw [Form.names, ← List.append_assoc] at same
    obtain ⟨rfl, _⟩ := List.append_inj' same rfl
    exact ground.clear_below _
  free := by
    intro names among
    obtain ⟨file, _, rfl⟩ := List.mem_map.mp among
    obtain ⟨first, rest, place⟩ : ∃ first rest, file.names = first :: rest :=
      List.exists_cons_of_ne_nil (by simp [Form.names])
    rw [place, ground.vacant]
    simp

theorem Item.Fitting.writable (fitting : item.Fitting) (ground : Ground t base) :
    Path.Writable (base ++ item.form.names) := by
  have fits : ∀ name ∈ item.form.names, Path.IsName name ∧ '\x00' ∉ name.toList ∧
      name.utf8ByteSize ≤ Tree.maxNameLength := by
    intro name hn
    rw [Form.names, List.mem_append, List.mem_singleton] at hn
    obtain hf | rfl := hn
    · have plain := fitting.folder name hf
      exact ⟨plain.proper, plain.modest.no_zero, plain.modest.size.trans (by decide)⟩
    · exact ⟨fitting.file, fitting.no_zero, fitting.size⟩
  refine ⟨?_, ?_, ?_, ?_⟩
  · exact List.forall_mem_append.mpr ⟨ground.writable.named, fun name hn => (fits name hn).1⟩
  · exact List.forall_mem_append.mpr ⟨ground.writable.fits, fun name hn => (fits name hn).2.2⟩
  · exact List.forall_mem_append.mpr ⟨ground.writable.no_zero, fun name hn => (fits name hn).2.1⟩
  · have size := Path.size_ofNames_append base item.form.names fun name hn => (fits name hn).2.2
    have length : item.form.names.length ≤ 5 := by
      rw [Form.names, List.length_append, List.length_singleton]
      exact Nat.succ_le_succ fitting.depth
    have root := ground.size
    rw [show Tree.maxNameLength = 255 from rfl] at size
    rw [show Tree.maxPathLength = 4095 from rfl]
    omega

/-- The path of a document, put together from its names. -/
theorem Item.Fitting.below_within (fitting : item.Fitting) (ground : Ground t base)
    (housed : ∀ envid, item.environment = some envid → Housed envid) :
    Path.below (Path.ofNames base) item.within = Path.ofNames (base ++ item.form.names) := by
  have named := (fitting.writable ground).named
  obtain ⟨environment, part⟩ := item
  cases environment with
  | none =>
      have names : part.form.names = part.place := part.names_form
      show Path.below _ part.place = Path.ofNames (base ++ part.form.names)
      rw [names]
      exact Path.below_ofNames (names ▸ named)
  | some envid =>
      have idle_or := housed envid rfl
      have within : (Item.mk (some envid) part).within =
          "envs" :: fileStem envid :: part.form.names := by
        rw [Part.names_form]
        rfl
      have names : (Item.mk (some envid) part).form.names =
          "envs" :: (environmentFolders envid ++ part.form.names) := by
        simp [form, Form.names]
      rw [within]
      rw [names] at named ⊢
      have folder : Path.join (Path.ofNames base) "envs" = Path.ofNames (base ++ ["envs"]) :=
        Path.join_ofNames ground.writable.named rfl
      -- An empty name is joined like any other and leaves a slash, which counts as nothing.
      obtain nothing | plain := idle_or
      · have no_folder : environmentFolders envid = [] := by
          simp [environmentFolders, nothing, Path.isIdle]
        rw [no_folder, List.nil_append] at named ⊢
        rw [nothing]
        show Path.below (Path.join (Path.ofNames base) "envs") ("" :: part.form.names) = _
        obtain ⟨first, rest, place⟩ : ∃ first rest, part.form.names = first :: rest :=
          List.exists_cons_of_ne_nil (by simp [Form.names])
        rw [place] at named ⊢
        rw [folder, Path.below_ofNames_empty (by simp) (by simpa using named)]
        simp
      · have own_folder : environmentFolders envid = [fileStem envid] := by
          simp [environmentFolders, plain.proper.busy]
        rw [own_folder] at named ⊢
        exact Path.below_ofNames named

/-- No document is a folder to another one: names of files have dots, and names of folders have
none. -/
theorem Item.Fitting.names_eq_of_inside {other : Item} (fitting : other.Fitting)
    (h : item.form.names <+: other.form.names) : item.form.names = other.form.names := by
  rw [Form.names, Form.names, List.prefix_concat_iff] at h
  obtain same | inside := h
  · exact same
  · have folder : item.form.stem ++ item.form.ending.text ∈ other.form.folders :=
      inside.subset (by simp)
    have dot : '.' ∈ (item.form.stem ++ item.form.ending.text).toList := by
      rw [String.toList_append, List.mem_append]
      exact .inr (by cases item.form.ending <;> decide)
    exact absurd dot (fitting.folder _ folder).no_dot

/-- A report into an empty folder does not fail, if its names are short and plain. -/
theorem failure_steps_eq_none (ground : Ground t base) (rows : List Observation)
    (metrics : List Metric) (baseline : String) (environments : Bool)
    (plain : ∀ m ∈ metrics, Plain m.key) (modest : ∀ o ∈ rows, Modest (fileStem o.bench))
    (housed : environments = true → ∀ o ∈ rows, Housed o.envid) :
    ((Progress.start t).run (Path.ofNames base)
      (steps (Path.ofNames base) rows metrics baseline environments)).failure = none := by
  set all := items rows metrics baseline environments with all_def
  have folders : ∀ envid ∈ (if environments then Grouping.environments rows else []),
      Housed envid := by
    split
    next on =>
      intro envid he
      obtain ⟨o, ho, rfl⟩ := Grouping.mem_environments_iff.mp he
      exact housed on o ho
    · exact nofun
  have benches : ∀ bench, Reported rows metrics bench → Benches bench := by
    rintro bench ⟨m, _, o, ho, rfl, _⟩
    exact modest o (Metric.mem_select.mp ho).1
  have among : ∀ item ∈ all, item.Among (metrics.map (·.key)) Benches
      (if environments then Grouping.environments rows else []) := fun item hi =>
    ⟨(among_items hi).1.imp benches, (among_items hi).2⟩
  have fitting : ∀ item ∈ all, item.Fitting := fun item hi =>
    Item.fitting (List.forall_mem_map.mpr plain) folders (among item hi)
  have apart : Apart ((all.map Item.form).map fun file => base ++ file.names) := by
    simp only [Apart, List.map_map, List.forall_mem_map]
    intro a _ b hb inside
    exact congrArg (base ++ ·)
      ((fitting b hb).names_eq_of_inside ((List.prefix_append_right_inj base).mp inside))
  refine Progress.failure_run_eq_none (ground.room (all.map Item.form)) apart rfl ?_
  intro within written
  rw [written_steps] at written
  obtain ⟨item, hi, rfl⟩ := List.mem_map.mp written
  have path := (fitting item hi).below_within ground fun envid he =>
    folders envid ((among item hi).2 envid he).1
  have writable := (fitting item hi).writable ground
  have among : base ++ item.form.names ∈ (all.map Item.form).map fun file => base ++ file.names :=
    List.mem_map.mpr ⟨item.form, List.mem_map_of_mem hi, rfl⟩
  rw [Form.names, ← List.append_assoc] at path writable among
  exact ⟨_, _, path, among, writable⟩

end Speedup.Report
