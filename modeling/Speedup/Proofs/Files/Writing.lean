import Speedup.Files.Document
import Speedup.Proofs.Files.Resolution
import Speedup.Proofs.Ordered.Lookup

/-!
# What writing leaves behind

Writing a document puts one file at the place of its path, makes folders on the way, and leaves
everything else as it was, also when it fails (`writeDocument_sameUpTo`). So what a run of steps
can change is known from the places of its documents alone, and a document that has been written is
still there afterwards if no later one has its place (`read_run`). In a run whose documents all have
places of their own nothing is lost (`keepsAll_of_nodup`).
-/

namespace Speedup.Files

open Speedup.Path Ordered

namespace Tree

variable {α : Type} {t t' t'' : Tree α} {place q : Place} {p : Path} {content : α}
  {places places' : List Place}

/-! ## Files and folders -/

def fileAt? (t : Tree α) (place : Place) : Option α :=
  match t.at? place with
  | some (.file content) => some content
  | _ => none

theorem fileAt?_eq_some_iff :
    t.fileAt? place = some content ↔ t.at? place = some (.file content) := by
  unfold fileAt?
  split <;> simp_all

theorem fileAt?_eq_none_of (h : ∀ content, t.at? place ≠ some (.file content)) :
    t.fileAt? place = none := by
  rw [Option.eq_none_iff_forall_ne_some]
  intro content found
  exact h content (fileAt?_eq_some_iff.mp found)

theorem at?_put_self (h : place ≠ []) (entry : Entry α) :
    (t.put place entry).at? place = some entry := by
  simp [at?, put, h, Table.get?_insert_self]

theorem at?_put_of_ne (h : q ≠ place) (entry : Entry α) :
    (t.put place entry).at? q = t.at? q := by
  simp [at?, put, Table.get?_insert_of_ne _ h]

/-- What can be followed depends on folders alone. -/
theorem walk_of_folders (folder : ∀ place, t.at? place = some .folder → t'.at? place = some .folder)
    {segments : List String} (found : t.walk place segments = .ok q) :
    t'.walk place segments = .ok q := by
  induction segments generalizing place with
  | nil => exact found
  | cons segment rest ih =>
      obtain ⟨next, hs, hr⟩ := walk_cons_eq_ok_iff.mp found
      obtain ⟨inside, fits, leads⟩ := follow_eq_ok_iff.mp hs
      exact walk_cons_eq_ok_iff.mpr
        ⟨next, follow_eq_ok_iff.mpr ⟨folder _ inside, fits, leads⟩, ih hr⟩

/-- The same tree, except that there may be more folders, and other files at some places. -/
structure SameUpTo (places : List Place) (t t' : Tree α) : Prop where
  working : t'.working = t.working
  folder : ∀ place, t.at? place = some .folder → t'.at? place = some .folder
  file : ∀ place ∉ places, t'.fileAt? place = t.fileAt? place

namespace SameUpTo

theorem refl (t : Tree α) : SameUpTo [] t t := ⟨rfl, fun _ h => h, fun _ _ => rfl⟩

theorem mono (h : SameUpTo places t t') (sub : places ⊆ places') : SameUpTo places' t t' :=
  ⟨h.working, h.folder, fun place hp => h.file place fun m => hp (sub m)⟩

theorem trans (h : SameUpTo places t t') (h' : SameUpTo places' t' t'') :
    SameUpTo (places ++ places') t t'' where
  working := h'.working.trans h.working
  folder := fun place there => h'.folder place (h.folder place there)
  file := by
    intro place hp
    rw [List.mem_append, not_or] at hp
    rw [h'.file place hp.2, h.file place hp.1]

theorem placeOf (h : SameUpTo places t t') (p : Path) : t'.placeOf p = t.placeOf p := by
  unfold Tree.placeOf origin
  rw [h.working]

theorem put_folder (free : t.at? place = none) : SameUpTo [] t (t.put place .folder) where
  working := rfl
  folder := by
    intro q hq
    rwa [at?_put_of_ne]
    rintro rfl
    rw [free] at hq
    cases hq
  file := by
    intro q _
    by_cases hq : q = place
    · subst hq
      have below : q ≠ [] := by
        rintro rfl
        cases free
      rw [fileAt?_eq_none_of (by simp [at?_put_self below]), fileAt?_eq_none_of (by simp [free])]
    · unfold fileAt?
      rw [at?_put_of_ne hq]

theorem put_file (no_folder : t.at? place ≠ some .folder) (content : α) :
    SameUpTo [place] t (t.put place (.file content)) where
  working := rfl
  folder := by
    intro q hq
    rwa [at?_put_of_ne]
    rintro rfl
    exact no_folder hq
  file := by
    intro q hq
    rw [List.mem_singleton] at hq
    unfold fileAt?
    rw [at?_put_of_ne hq]

/-- What could be followed can still be followed. -/
theorem walk (h : SameUpTo places t t') {segments : List String}
    (found : t.walk place segments = .ok q) : t'.walk place segments = .ok q :=
  walk_of_folders h.folder found

end SameUpTo

/-! ## Reading -/

theorem find_eq_ok_iff {entry : Entry α} : t.find p = .ok entry ↔
    check p = .ok () ∧ ∃ place, t.walk (t.origin p) p.segments = .ok place ∧
      t.at? place = some entry := by
  unfold find
  simp only [bind_eq_ok_iff]
  constructor
  · rintro ⟨u, checked, place, walked, there⟩
    refine ⟨checked, place, walked, ?_⟩
    split at there
    · cases there
    · cases there
      assumption
  · rintro ⟨checked, place, walked, there⟩
    refine ⟨(), checked, place, walked, ?_⟩
    rw [there]

theorem read_eq_ok_iff : t.read p = .ok content ↔ t.find p = .ok (.file content) := by
  unfold read
  rw [bind_eq_ok_iff]
  constructor
  · rintro ⟨entry, found, is_file⟩
    cases entry with
    | folder => cases is_file
    | file c =>
        cases is_file
        exact found
  · intro found
    exact ⟨_, found, rfl⟩

theorem isFolder_iff_find : t.isFolder p = true ↔ t.find p = .ok .folder := by
  unfold isFolder
  split <;> simp_all

theorem isFile_iff_find : t.isFile p = true ↔ ∃ content, t.find p = .ok (.file content) := by
  unfold isFile
  split <;> simp_all

/-- A path leads to what is at its place. -/
theorem at?_of_find {entry : Entry α} (found : t.find p = .ok entry) :
    t.at? (t.placeOf p) = some entry := by
  obtain ⟨_, _, walked, there⟩ := find_eq_ok_iff.mp found
  rw [placeOf, walk_eq_ok walked, there]

/-- A file can still be read if its place is none of those where files are written. -/
theorem SameUpTo.read (h : SameUpTo places t t') (apart : t.placeOf p ∉ places)
    (found : t.read p = .ok content) : t'.read p = .ok content := by
  obtain ⟨checked, place, walked, there⟩ := find_eq_ok_iff.mp (read_eq_ok_iff.mp found)
  have at_place : t.placeOf p = place := walk_eq_ok walked
  rw [at_place] at apart
  have origin : t'.origin p = t.origin p := by
    unfold Tree.origin
    rw [h.working]
  refine read_eq_ok_iff.mpr (find_eq_ok_iff.mpr ⟨checked, place, ?_, ?_⟩)
  · rw [origin]
    exact h.walk walked
  · rw [← fileAt?_eq_some_iff, h.file place apart, fileAt?_eq_some_iff]
    exact there

/-! ## One file -/

/-- The target of a path without a slash behind it is what its last segment names. -/
theorem target?_eq_some {target : Target} (h : t.target? p = .ok (some target))
    (open_end : target.slash = false) :
    check p = .ok () ∧ ∃ before, p.segments = before ++ [target.name] ∧
      t.walk (t.origin p) before = .ok target.folder ∧ t.at? target.folder = some .folder := by
  unfold target? at h
  obtain ⟨u, checked, h⟩ := bind_eq_ok_iff.mp h
  refine ⟨checked, ?_⟩
  dsimp only at h
  split at h
  · cases h
  next name before split =>
    obtain ⟨folder, walked, h⟩ := bind_eq_ok_iff.mp h
    obtain ⟨u', inside, h⟩ := bind_eq_ok_iff.mp h
    cases h
    have reversed : p.segments.reverse = name :: before := by
      cases hr : p.segments.reverse with
      | nil => simp [hr] at split
      | cons last rest =>
          have no_slash : last ≠ "" := by simpa [hr] using open_end
          simpa [hr, no_slash] using split
    refine ⟨before.reverse, ?_, walked, requireFolder_eq_ok_iff.mp inside⟩
    rw [← List.reverse_reverse p.segments, reversed, List.reverse_cons]

theorem walk_append {front back : List String} {next : Place}
    (h : t.walk place front = .ok next) : t.walk place (front ++ back) = t.walk next back := by
  rw [walk, List.foldlM_append]
  exact congrArg (· >>= _) h

theorem enter_eq_ok {name : String} (h : enter place name = .ok q) :
    q = place ++ [name] ∧ name.utf8ByteSize ≤ maxNameLength := by
  unfold enter at h
  split at h
  · cases h
  next short =>
    cases h
    exact ⟨rfl, Nat.le_of_not_lt short⟩

/-- A file that is written has a name at the end of its path, and is put into the folder that the
segments before it lead to. -/
theorem target_of_writeFile (h : t.writeFile p content = .ok t') : check p = .ok () ∧
    ∃ before name folder, p.segments = before ++ [name] ∧ isIdle name = false ∧ name ≠ ".." ∧
      name.utf8ByteSize ≤ maxNameLength ∧ t.walk (t.origin p) before = .ok folder ∧
      t.at? folder = some .folder ∧ t.at? (folder ++ [name]) ≠ some .folder ∧
      t' = t.put (folder ++ [name]) (.file content) := by
  unfold writeFile at h
  obtain ⟨target?, targeted, h⟩ := bind_eq_ok_iff.mp h
  split at h
  · cases h
  next target =>
    split at h
    · cases h
    next proper =>
      simp only [Bool.or_eq_true, not_or, Bool.not_eq_true, beq_eq_false_iff_ne] at proper
      obtain ⟨⟨busy, no_dots⟩, open_end⟩ := proper
      obtain ⟨checked, before, segments, walked, inside⟩ := target?_eq_some targeted open_end
      obtain ⟨place, entered, h⟩ := bind_eq_ok_iff.mp h
      obtain ⟨rfl, short⟩ := enter_eq_ok entered
      refine ⟨checked, before, target.name, target.folder, segments, busy, no_dots, short, walked,
        inside, ?_⟩
      split at h
      · cases h
      next no_folder =>
        cases h
        exact ⟨no_folder, rfl⟩

/-- A file that is written is put at the place of its path, to which the path can be followed. -/
theorem writeFile_eq_ok (h : t.writeFile p content = .ok t') :
    check p = .ok () ∧ t.walk (t.origin p) p.segments = .ok (t.placeOf p) ∧
      t.at? (t.placeOf p) ≠ some .folder ∧ t' = t.put (t.placeOf p) (.file content) := by
  obtain ⟨checked, before, name, folder, segments, busy, no_dots, short, walked, inside, free,
    put⟩ := target_of_writeFile h
  have whole : t.walk (t.origin p) p.segments = .ok (folder ++ [name]) := by
    rw [segments, walk_append walked]
    refine walk_cons_eq_ok_iff.mpr ⟨_, follow_eq_ok_iff.mpr ⟨inside, ?_, rfl⟩, ?_⟩
    · exact .inr (.inr short)
    · rw [settleStep_name busy no_dots]
      rfl
  have at_place : t.placeOf p = folder ++ [name] := walk_eq_ok whole
  rw [at_place]
  exact ⟨checked, whole, free, put⟩

theorem writeFile_sameUpTo (h : t.writeFile p content = .ok t') :
    SameUpTo [t.placeOf p] t t' := by
  obtain ⟨_, _, no_folder, rfl⟩ := writeFile_eq_ok h
  exact .put_file no_folder content

theorem read_writeFile (h : t.writeFile p content = .ok t') : t'.read p = .ok content := by
  have same := writeFile_sameUpTo h
  obtain ⟨checked, walked, no_folder, rfl⟩ := writeFile_eq_ok h
  refine read_eq_ok_iff.mpr (find_eq_ok_iff.mpr ⟨checked, _, same.walk walked, at?_put_self ?_ _⟩)
  intro at_root
  rw [at_root] at no_folder
  exact no_folder rfl

/-! ## Folders -/

theorem makeFolder_sameUpTo (h : t.makeFolder p = .ok t') : SameUpTo [] t t' := by
  unfold makeFolder at h
  obtain ⟨target?, _, h⟩ := bind_eq_ok_iff.mp h
  split at h
  · cases h
  next target =>
    split at h
    · cases h
    · obtain ⟨place, _, h⟩ := bind_eq_ok_iff.mp h
      split at h
      · cases h
      next free =>
        cases h
        exact .put_folder (by simpa using free)

theorem orThere_sameUpTo {made : Except Problem (Tree α)}
    (h : ∀ t', made = .ok t' → SameUpTo [] t t') : SameUpTo [] t (t.orThere p made).tree := by
  cases made with
  | ok t' => exact h t' rfl
  | error problem => exact .refl t

theorem makeFirst_sameUpTo (t : Tree α) (paths : List Path) :
    SameUpTo [] t (t.makeFirst paths).tree := by
  induction paths with
  | nil => exact .refl t
  | cons p outer ih =>
      unfold makeFirst
      split
      · exact .refl t
      · split
        · dsimp only
          split
          · exact ih
          · exact ih.trans (orThere_sameUpTo fun _ => makeFolder_sameUpTo)
        · exact orThere_sameUpTo fun _ => makeFolder_sameUpTo

theorem makeFolders_sameUpTo (t : Tree α) (p : Path) : SameUpTo [] t (t.makeFolders p).tree :=
  makeFirst_sameUpTo t _

end Tree

/-! ## Documents -/

variable {t t' : Tree Document} {p : Path} {document : Document}

/-- The folders that lead to a document. -/
def around (t : Tree Document) (p : Path) : Tree.Result Document :=
  match p.parent?.filter (!·.isEmpty) with
  | none => ⟨t, none⟩
  | some outer => t.makeFolders outer

theorem writeDocument_eq_iff {written : Tree Document} :
    writeDocument t p document = ⟨written, none⟩ ↔
      (around t p).problem = none ∧ (around t p).tree.writeFile p document = .ok written := by
  unfold writeDocument around
  dsimp only
  cases p.parent?.filter (!·.isEmpty) with
  | none => cases t.writeFile p document <;> simp
  | some outer =>
      dsimp only
      rcases t.makeFolders outer with ⟨made, _ | problem⟩
      · cases h : made.writeFile p document <;> simp [h]
      · simp

theorem around_sameUpTo (t : Tree Document) (p : Path) : Tree.SameUpTo [] t (around t p).tree := by
  unfold around
  split
  · exact .refl t
  · exact Tree.makeFolders_sameUpTo t _

/-- Writing a document makes folders, and then either fails or writes its file among them. -/
theorem writeDocument_around (t : Tree Document) (p : Path) (document : Document) :
    ((writeDocument t p document).failure ≠ none ∧
      (writeDocument t p document).tree = (around t p).tree) ∨
    ((writeDocument t p document).failure = none ∧ (around t p).problem = none ∧
      (around t p).tree.writeFile p document = .ok (writeDocument t p document).tree) := by
  unfold writeDocument around
  dsimp only
  cases p.parent?.filter (!·.isEmpty) with
  | none =>
      cases h : t.writeFile p document with
      | ok written => simp
      | error problem => simp
  | some outer =>
      dsimp only
      rcases t.makeFolders outer with ⟨made, _ | problem⟩
      · cases h : made.writeFile p document with
        | ok written => simp [h]
        | error problem => simp [h]
      · exact .inl ⟨nofun, rfl⟩

theorem writeDocument_cases (t : Tree Document) (p : Path) (document : Document) :
    ∃ made, Tree.SameUpTo [] t made ∧
      (((writeDocument t p document).tree = made ∧
          (writeDocument t p document).failure ≠ none) ∨
        (made.writeFile p document = .ok (writeDocument t p document).tree ∧
          (writeDocument t p document).failure = none)) := by
  refine ⟨(around t p).tree, around_sameUpTo t p, ?_⟩
  rcases writeDocument_around t p document with ⟨failed, unwritten⟩ | ⟨done, _, written⟩
  · exact .inl ⟨unwritten, failed⟩
  · exact .inr ⟨written, done⟩

theorem writeDocument_sameUpTo (t : Tree Document) (p : Path) (document : Document) :
    Tree.SameUpTo [t.placeOf p] t (writeDocument t p document).tree := by
  obtain ⟨made, same, ⟨unwritten, _⟩ | ⟨written, _⟩⟩ := writeDocument_cases t p document
  · rw [unwritten]
    exact same.mono (List.nil_subset _)
  · have file := Tree.writeFile_sameUpTo written
    rw [same.placeOf] at file
    exact same.trans file

theorem read_writeDocument (h : (writeDocument t p document).failure = none) :
    (writeDocument t p document).tree.read p = .ok document := by
  obtain ⟨made, _, ⟨_, failed⟩ | ⟨written, _⟩⟩ := writeDocument_cases t p document
  · exact absurd h failed
  · exact Tree.read_writeFile written

end Files

/-! ## Steps -/

def Step.written? : Step → Option (List Path)
  | .write within _ => some within
  | _ => none

/-- The paths of the documents that steps write, seen from where the work is done. -/
def Step.written (steps : List Step) : List (List Path) := steps.filterMap written?

@[simp] theorem Step.written_append (xs ys : List Step) :
    written (xs ++ ys) = written xs ++ written ys := List.filterMap_append

theorem Step.written_map_eq_nil {β : Type} {f : β → Step} (h : ∀ x, (f x).written? = none)
    (xs : List β) : written (xs.map f) = [] := by
  simp [written, List.filterMap_map, h]

@[simp] theorem Step.written_flatMap {β : Type} (f : β → List Step) (xs : List β) :
    written (xs.flatMap f) = xs.flatMap fun x => written (f x) := List.filterMap_flatMap

def Step.places (t : Files.Tree Document) (root : Path) (steps : List Step) : List Files.Place :=
  (written steps).map fun within => t.placeOf (Path.below root within)

theorem Step.places_append (t : Files.Tree Document) (root : Path) (xs ys : List Step) :
    places t root (xs ++ ys) = places t root xs ++ places t root ys := by
  simp [places]

theorem Step.places_congr {t t' : Files.Tree Document} {changed : List Files.Place}
    (same : Files.Tree.SameUpTo changed t t') (root : Path) (steps : List Step) :
    places t' root steps = places t root steps :=
  List.map_congr_left fun _ _ => same.placeOf _

namespace Progress

open Files

variable {root : Path} {steps before after : List Step} {within : List Path} {document : Document}

theorem run_append (root : Path) (p : Progress) (xs ys : List Step) :
    p.run root (xs ++ ys) = (p.run root xs).run root ys := List.foldl_append

theorem run_concat (root : Path) (p : Progress) (steps : List Step) (step : Step) :
    p.run root (steps ++ [step]) = (p.run root steps).take root step := by
  rw [run_append]
  rfl

theorem run_of_failure {p : Progress} (failed : p.failure.isSome) (steps : List Step) :
    p.run root steps = p := by
  induction steps with
  | nil => rfl
  | cons step rest ih =>
      rw [run, List.foldl_cons]
      have stays : p.take root step = p := by simp [take, failed]
      rw [stays]
      exact ih

theorem tree_write (p : Progress) (path : Path) (document : Document) :
    (p.write path document).tree = (writeDocument p.tree path document).tree := by
  unfold write
  dsimp only
  split <;> rfl

theorem failure_write (p : Progress) (path : Path) (document : Document) :
    (p.write path document).failure = (writeDocument p.tree path document).failure := by
  unfold write
  dsimp only
  split <;> rfl

theorem take_sameUpTo (root : Path) (p : Progress) (step : Step) :
    Tree.SameUpTo (Step.places p.tree root [step]) p.tree (p.take root step).tree := by
  have nothing : Tree.SameUpTo (Step.places p.tree root [step]) p.tree p.tree :=
    (Tree.SameUpTo.refl _).mono (List.nil_subset _)
  unfold take
  split
  · exact nothing
  · cases step with
    | note entry => exact nothing
    | print text => exact nothing
    | write within document =>
        have written := writeDocument_sameUpTo p.tree (Path.below root within) document
        show Tree.SameUpTo [_] p.tree (p.write (Path.below root within) document).tree
        rw [tree_write]
        exact written

/-- A run changes files only at the places of its documents. -/
theorem run_sameUpTo (root : Path) (p : Progress) (steps : List Step) :
    Tree.SameUpTo (Step.places p.tree root steps) p.tree (p.run root steps).tree := by
  induction steps generalizing p with
  | nil => exact .refl _
  | cons step rest ih =>
      have first := take_sameUpTo root p step
      have later := ih (p.take root step)
      have places : Step.places p.tree root (step :: rest) =
          Step.places p.tree root [step] ++ Step.places (p.take root step).tree root rest := by
        rw [Step.places_congr first, ← Step.places_append]
        rfl
      rw [places]
      exact first.trans later

/-- A document that has been written is still there if no later one has its place. -/
theorem read_run {p : Progress}
    (done : (p.run root (before ++ [.write within document])).failure = none)
    (apart : p.tree.placeOf (Path.below root within) ∉ Step.places p.tree root after) :
    (p.run root (before ++ .write within document :: after)).tree.read (Path.below root within) =
      .ok document := by
  have ready : (p.run root before).failure.isSome = false := by
    rw [Bool.eq_false_iff]
    intro failed
    rw [run_append, run_of_failure failed] at done
    rw [done] at failed
    cases failed
  set q := p.run root (before ++ [.write within document]) with q_def
  have step : q = (p.run root before).write (Path.below root within) document := by
    rw [q_def, run_concat]
    simp [take, ready]
  have there : q.tree.read (Path.below root within) = .ok document := by
    rw [step, failure_write] at done
    rw [step, tree_write]
    exact read_writeDocument done
  have so_far := run_sameUpTo root p (before ++ [.write within document])
  have later := run_sameUpTo root q after
  rw [Step.places_congr so_far] at later
  rw [List.append_cons, run_append, ← q_def]
  refine later.read ?_ there
  rw [so_far.placeOf]
  exact apart

/-- All documents that the steps write are kept: each has a place of its own, and what has been
written can be read after the run. -/
structure KeepsAll (t : Files.Tree Document) (root : Path) (steps : List Step) : Prop where
  distinct : (Step.places t root steps).Nodup
  kept : ∀ before within document after, steps = before ++ .write within document :: after →
    ((start t).run root (before ++ [.write within document])).failure = none →
    ((start t).run root steps).tree.read (Path.below root within) = .ok document

/-- Nothing is lost where every document has a place of its own. -/
theorem keepsAll_of_nodup {t : Files.Tree Document} (distinct : (Step.places t root steps).Nodup) :
    KeepsAll t root steps where
  distinct := distinct
  kept := by
    rintro before within document after rfl done
    refine read_run done ?_
    have parts : Step.places t root (before ++ .write within document :: after) =
        Step.places t root before ++
          t.placeOf (Path.below root within) :: Step.places t root after := by
      rw [Step.places_append]
      rfl
    rw [parts, List.nodup_append, List.nodup_cons] at distinct
    exact distinct.2.1.1

end Progress

end Speedup
