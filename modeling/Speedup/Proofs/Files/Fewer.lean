import Speedup.Proofs.Files.Contents
import Speedup.Proofs.Files.Reaching

/-!
# Writing fewer documents

Whether a document can be written depends on what is there already, but only in one way: what is
there can be in its way, and what is missing is made. So a document that can be written can be
written where less is there as well (`fewer_writeDocument`), and a run that leaves out some of the
documents of another one does not fail if that one does not (`failure_run_of_sublist`). The trees of
two such runs are compared by what they hold at every place, contents aside (`Tree.Fewer`).
-/

namespace Speedup.Files

open Speedup.Path

namespace Tree

variable {α : Type} {t t' : Tree α} {place q : Place} {way front : List String} {name : String}

/-! ## Trees that hold fewer things -/

/-- What one tree holds the other one holds as well: folders as folders and files as files, perhaps
with other contents. -/
structure Fewer (t t' : Tree α) : Prop where
  working : t'.working = t.working
  missing : ∀ place, t'.at? place = none → t.at? place = none
  folder_iff : ∀ place, t.at? place ≠ none →
    (t.at? place = some .folder ↔ t'.at? place = some .folder)

namespace Fewer

theorem refl (t : Tree α) : Fewer t t := ⟨rfl, fun _ => id, fun _ _ => Iff.rfl⟩

theorem trans {t'' : Tree α} (fewer : Fewer t t') (more : Fewer t' t'') : Fewer t t'' where
  working := more.working.trans fewer.working
  missing place gone := fewer.missing place (more.missing place gone)
  folder_iff place there := (fewer.folder_iff place there).trans
    (more.folder_iff place (mt (fewer.missing place) there))

theorem folder (fewer : Fewer t t') (here : t.at? place = some .folder) :
    t'.at? place = some .folder :=
  (fewer.folder_iff place (by simp [here])).mp here

theorem start (fewer : Fewer t t') (head : Head) : t'.start head = t.start head := by
  unfold Tree.start
  rw [fewer.working]

theorem put (fewer : Fewer t t') {entry entry' : Entry α}
    (kind : entry = .folder ↔ entry' = .folder) (place : Place) :
    Fewer (t.put place entry) (t'.put place entry') := by
  have known (q : Place) : (q = [] ∨ q ≠ place) ∨ (q = place ∧ q ≠ []) := by tauto
  have other {t : Tree α} {entry : Entry α} {q : Place} (h : q = [] ∨ q ≠ place) :
      (t.put place entry).at? q = t.at? q := by
    obtain rfl | apart := h
    · rfl
    · exact at?_put_of_ne apart entry
  refine ⟨fewer.working, fun q => ?_, fun q => ?_⟩
  · obtain apart | ⟨rfl, below⟩ := known q
    · rw [other apart, other apart]
      exact fewer.missing q
    · rw [at?_put_self below]
      exact nofun
  · obtain apart | ⟨rfl, below⟩ := known q
    · rw [other apart, other apart]
      exact fewer.folder_iff q
    · rw [at?_put_self below, at?_put_self below, Option.some_inj, Option.some_inj]
      exact fun _ => kind

theorem put_left (fewer : Fewer t t') {entry : Entry α} (there : t'.at? place ≠ none)
    (kind : entry = .folder ↔ t'.at? place = some .folder) : Fewer (t.put place entry) t' := by
  refine ⟨fewer.working, fun q gone => ?_, fun q some_there => ?_⟩
  · have apart : q ≠ place := fun same => there (same ▸ gone)
    rw [at?_put_of_ne apart]
    exact fewer.missing q gone
  · by_cases here : q = place
    · subst here
      by_cases at_root : q = []
      · simp [at_root, at?]
      · rw [at?_put_self at_root, Option.some_inj]
        exact kind
    · rw [at?_put_of_ne here] at some_there ⊢
      exact fewer.folder_iff q some_there

/-- What is in the way of a folder where less is there can only be that it is missing. -/
theorem folder_or_missing (fewer : Fewer t t')
    (problems : ∀ problem, t'.requireFolder place = .error problem → problem = .notFound) :
    t.at? place = some .folder ∨ t.requireFolder place = .error .notFound := by
  cases there : t.at? place with
  | none => exact .inr (by rw [requireFolder, there])
  | some entry =>
      by_cases here : t.at? place = some .folder
      · exact .inl (there.symm.trans here)
      · have some_there : t.at? place ≠ none := by simp [there]
        have no_folder := mt (fewer.folder_iff place some_there).mpr here
        have not_folder : t'.requireFolder place = .error .notFolder := by
          unfold requireFolder
          split
          next gone => exact absurd (fewer.missing place gone) some_there
          · rfl
          next found => exact absurd found no_folder
        cases problems _ not_folder

theorem follow (fewer : Fewer t t') (here : t.at? place = some .folder) (segment : String) :
    t'.follow place segment = t.follow place segment := by
  unfold Tree.follow
  rw [requireFolder_folder here, requireFolder_folder (fewer.folder here)]

/-- Where less is there only folders can be missing. -/
theorem reach (fewer : Fewer t t')
    (problems : ∀ problem, t'.reach place way = .error problem → problem = .notFound) :
    t.reach place way = t'.reach place way ∨ t.reach place way = .error .notFound := by
  induction way generalizing place with
  | nil =>
      obtain here | gone := fewer.folder_or_missing fun problem stopped =>
        problems problem (by rw [reach_nil, stopped]; rfl)
      · rw [reach_nil, reach_nil, requireFolder_folder here,
          requireFolder_folder (fewer.folder here)]
        exact .inl rfl
      · rw [reach_nil, gone]
        exact .inr rfl
  | cons segment rest ih =>
      obtain here | gone := fewer.folder_or_missing fun problem stopped =>
        problems problem (by rw [reach_cons, Tree.follow, stopped]; rfl)
      · rw [reach_cons, fewer.follow here] at problems
        rw [reach_cons, reach_cons, fewer.follow here]
        cases next : t.follow place segment with
        | error problem => exact .inl rfl
        | ok q => exact ih fun problem stopped => problems problem (by rw [next]; exact stopped)
      · rw [reach_cons, Tree.follow, gone]
        exact .inr rfl

theorem reach_of_ok (fewer : Fewer t t') (h : t'.reach place way = .ok q) :
    t.reach place way = .ok q ∨ t.reach place way = .error .notFound := by
  obtain same | gone := fewer.reach fun problem stopped => by
    rw [h] at stopped
    cases stopped
  · exact .inl (same.trans h)
  · exact .inr gone

theorem reach_of_missing (fewer : Fewer t t') (h : t'.reach place way = .error .notFound) :
    t.reach place way = .error .notFound := by
  obtain same | gone := fewer.reach fun problem stopped => by
    rw [h] at stopped
    cases stopped
    rfl
  · exact same.trans h
  · exact gone

theorem reach_up (fewer : Fewer t t') (h : t.reach place way = .ok q) :
    t'.reach place way = .ok q := by
  obtain ⟨walked, here⟩ := reach_eq_ok_iff.mp h
  exact reach_eq_ok_iff.mpr ⟨walk_of_folders (fun _ => fewer.folder) walked, fewer.folder here⟩

end Fewer

/-! ## Trees without gaps -/

/-- The working folder is there, and so is the folder around everything else. -/
structure Whole (t : Tree α) : Prop where
  working : t.at? t.working = some .folder
  around : ∀ place, t.at? place ≠ none → t.at? place.dropLast = some .folder

theorem Whole.put (whole : Whole t) {entry : Entry α} (inside : t.at? place = some .folder)
    (kind : t.at? (place ++ [name]) = some .folder → entry = .folder) :
    Whole (t.put (place ++ [name]) entry) := by
  have kept {q : Place} (folder : t.at? q = some .folder) :
      (t.put (place ++ [name]) entry).at? q = some .folder := by
    by_cases here : q = place ++ [name]
    · subst here
      rw [at?_put_self (by simp), kind folder]
    · rwa [at?_put_of_ne here]
  refine ⟨kept whole.working, fun q there => ?_⟩
  by_cases here : q = place ++ [name]
  · subst here
    rw [List.dropLast_concat]
    exact kept inside
  · rw [at?_put_of_ne here] at there
    exact kept (whole.around q there)

/-! ## Making folders where less is there -/

/-- One tree has made the folder of a path and another one, in which less is there, as well. -/
structure Follows (parts : Parts) (result result' : Result α) : Prop where
  done : result.problem = none
  fewer : Fewer result.tree result'.tree
  whole : Whole result.tree
  reached : ∃ q, result.tree.reach (result.tree.start parts.head) parts.body = .ok q

theorem Fewer.here (fewer : Fewer t t') (whole : Whole t) :
    t'.at? t'.working = some .folder := by
  rw [fewer.working]
  exact fewer.folder whole.working

/-- A name that leads to a folder only where more is there stands for nothing where less is. -/
theorem free_of_missing (whole : Whole t) {folder : Place} (inside : t.at? folder = some .folder)
    (busy : isIdle name = false) (fits : Fits name)
    (gone : t.reach folder [name] = .error .notFound) :
    name ≠ ".." ∧ t.at? (folder ++ [name]) = none := by
  have followed : t.follow folder name = .ok (settleStep folder name) :=
    follow_eq_ok_iff.mpr ⟨inside, fits, rfl⟩
  rw [reach_cons, followed] at gone
  replace gone : t.reach (settleStep folder name) [] = .error .notFound := gone
  have missing : t.at? (settleStep folder name) ≠ some .folder := by
    intro there
    have stays : t.reach (settleStep folder name) [] = .ok (settleStep folder name) :=
      reach_idle nofun there
    cases stays.symm.trans gone
  have up : name ≠ ".." := by
    rintro rfl
    exact missing (whole.around folder (by simp [inside]))
  refine ⟨up, ?_⟩
  rw [settleStep_name busy up] at gone missing
  cases found : t.at? (folder ++ [name]) with
  | none => rfl
  | some entry =>
      cases entry with
      | folder => exact absurd found missing
      | file content =>
          have not_folder : t.reach (folder ++ [name]) [] = .error .notFolder := by
            rw [reach_nil, requireFolder, found]
            rfl
          cases not_folder.symm.trans gone

/-- A folder is made where less is there, and where more is there it is there in the end. -/
theorem follows_makeIn {parts : Parts} {folder : Place} {result' : Result α} (whole : Whole t)
    (proper : parts.Proper) (body : parts.body = front ++ [name])
    (reached : t.reach (t.start parts.head) front = .ok folder)
    (free : t.at? (folder ++ [name]) = none) (up : name ≠ "..")
    (short : name.utf8ByteSize ≤ maxNameLength)
    (fewer : Fewer (t.put (folder ++ [name]) .folder) result'.tree) :
    Follows parts (t.orThere parts.path (t.makeIn folder name)) result' := by
  have inside := (reach_eq_ok_iff.mp reached).2
  rw [makeIn_eq_ok_iff.mpr ⟨up, short, free, rfl⟩]
  refine ⟨rfl, fewer, whole.put inside fun _ => rfl, folder ++ [name], ?_⟩
  rw [body]
  exact reach_put_folder reached short (settleStep_name (proper.busy body) up) free

theorem follows_orThere {parts : Parts} {folder : Place} (fewer : Fewer t t') (whole : Whole t)
    (proper : parts.Proper) (body : parts.body = front ++ [name])
    (reached : t.reach (t.start parts.head) front = .ok folder)
    (done : (t'.orThere parts.path (t'.makeFolder parts.path)).problem = none) :
    Follows parts (t.orThere parts.path (t.makeFolder parts.path))
      (t'.orThere parts.path (t'.makeFolder parts.path)) := by
  have checked := check_of_orThere done
  have busy := proper.busy body
  have reached' : t'.reach (t'.start parts.head) front = .ok folder := by
    rw [fewer.start]
    exact fewer.reach_up reached
  rw [makeFolder_of_reach (fewer.here whole) proper body reached' checked] at done ⊢
  rw [makeFolder_of_reach whole.working proper body reached checked]
  cases made' : t'.makeIn folder name with
  | ok result' =>
      obtain ⟨up, short, free', rfl⟩ := makeIn_eq_ok_iff.mp made'
      exact follows_makeIn whole proper body reached (fewer.missing _ free') up short
        (fewer.put Iff.rfl _)
  | error problem =>
      rw [made'] at done
      obtain ⟨_, q, there'⟩ := (isFolder_inside (fewer.here whole) proper body reached').mp
        (isFolder_of_orThere done)
      obtain there | gone := fewer.reach_of_ok there'
      · have is_folder := (isFolder_inside whole.working proper body reached).mpr
          ⟨checked, q, there⟩
        rw [makeIn_of_reach there busy]
        refine ⟨by simp [orThere, is_folder], fewer, whole, q, ?_⟩
        show t.reach (t.start parts.head) parts.body = .ok q
        rw [body, reach_append, reached]
        exact there
      · have inside := (reach_eq_ok_iff.mp reached).2
        obtain ⟨_, fits, leads, folder'⟩ := reach_single_iff.mp there'
        obtain ⟨up, free⟩ := free_of_missing whole inside busy fits gone
        rw [settleStep_name busy up] at leads
        exact follows_makeIn whole proper body reached free up (short_of_fits fits busy up)
          (fewer.put_left (by simp [leads, folder']) (by simp [leads, folder']))

section Step

variable {parts : Parts} {rest : List Path}

theorem follows_nil (fewer : Fewer t t') (whole : Whole t) (body : parts.body = [])
    (outer : List Path) :
    Follows parts (t.makeFirst (parts.path :: outer)) (t'.makeFirst (parts.path :: outer)) := by
  obtain ⟨head, _⟩ := parts
  obtain rfl := body
  rw [makeFirst_nil_body whole.working, makeFirst_nil_body (fewer.here whole)]
  exact ⟨rfl, fewer, whole, _, reach_idle nofun (folder_start whole.working head)⟩

/-- If the folder around it is missing where less is there, a folder is made as soon as that one
is. -/
theorem follows_of_missing {made' : Tree α} (here : t.at? t.working = some .folder)
    (proper : parts.Proper) (body : parts.body = front ++ [name])
    (checked : check parts.path = .ok ())
    (gone : t.reach (t.start parts.head) front = .error .notFound)
    (around : Follows (parts.outer front) (t.makeFirst ((parts.outer front).path :: rest))
      ⟨made', none⟩)
    (done : (made'.orThere parts.path (made'.makeFolder parts.path)).problem = none) :
    Follows parts (t.makeFirst (parts.path :: (parts.outer front).path :: rest))
      (made'.orThere parts.path (made'.makeFolder parts.path)) := by
  have nonempty : parts.path.isEmpty = false := by
    simpa using proper.path_ne_empty (by simp [body])
  obtain ⟨folder, reached⟩ := around.reached
  rw [makeFirst_of_missing nonempty (makeFolder_of_error here proper body gone checked)
    around.done]
  exact follows_orThere around.fewer around.whole proper body (reach_of_outer reached) done

/-- One more folder: the folders around it follow, or are not needed where more is there. -/
theorem follows_cons (fewer : Fewer t t') (whole : Whole t) (proper : parts.Proper)
    (body : parts.body = front ++ [name])
    (around : (t'.makeFirst ((parts.outer front).path :: rest)).problem = none →
      Follows (parts.outer front) (t.makeFirst ((parts.outer front).path :: rest))
        (t'.makeFirst ((parts.outer front).path :: rest)))
    (done : (t'.makeFirst (parts.path :: (parts.outer front).path :: rest)).problem = none) :
    Follows parts (t.makeFirst (parts.path :: (parts.outer front).path :: rest))
      (t'.makeFirst (parts.path :: (parts.outer front).path :: rest)) := by
  have here := whole.working
  have here' := fewer.here whole
  have some_char := proper.path_ne_empty (by simp [body])
  have nonempty : parts.path.isEmpty = false := by simpa using some_char
  by_cases missing : t'.makeFolder parts.path = .error .notFound
  · have checked := check_of_makeFolder some_char missing
    have gone := fewer.reach_of_missing
      (fewer.start parts.head ▸ reach_of_makeFolder here' proper body checked missing)
    have around_done := done_of_missing nonempty missing done
    have follows := around around_done
    have made : t'.makeFirst ((parts.outer front).path :: rest) =
        ⟨(t'.makeFirst ((parts.outer front).path :: rest)).tree, none⟩ := by rw [← around_done]
    rw [makeFirst_of_missing nonempty missing around_done] at done ⊢
    rw [made] at follows
    exact follows_of_missing here proper body checked gone follows done
  · rw [makeFirst_of_not_missing nonempty missing] at done ⊢
    have checked := check_of_orThere done
    obtain ⟨folder, reached'⟩ := exists_reach_of_orThere here' proper body done
    obtain reached | gone := fewer.reach_of_ok (fewer.start parts.head ▸ reached')
    · have not_missing : t.makeFolder parts.path ≠ .error .notFound := by
        rw [makeFolder_of_reach here proper body reached checked]
        exact makeIn_ne_missing
      rw [makeFirst_of_not_missing nonempty not_missing]
      exact follows_orThere fewer whole proper body reached done
    · have unchanged : t'.makeFirst ((parts.outer front).path :: rest) = ⟨t', none⟩ := by
        obtain ⟨outer, reached⟩ := exists_reach_outer reached'
        obtain ⟨more, path⟩ := Parts.exists_path_eq body
        exact makeFirst_of_reach here' (proper.outer body)
          (fun some_char => check_front some_char (path ▸ checked)) reached rest
      have follows := around (by rw [unchanged])
      rw [unchanged] at follows
      exact follows_of_missing here proper body checked gone follows done

end Step

/-- Where less is there the same folders can be made. -/
theorem follows_makeFirst {parts : Parts} (fuel : Nat) (enough : parts.body.length ≤ fuel)
    (fewer : Fewer t t') (whole : Whole t) (proper : parts.Proper)
    (done : (t'.makeFirst (parts.path :: outerPaths fuel parts)).problem = none) :
    Follows parts (t.makeFirst (parts.path :: outerPaths fuel parts))
      (t'.makeFirst (parts.path :: outerPaths fuel parts)) := by
  induction fuel generalizing parts with
  | zero =>
      have nothing := List.eq_nil_of_length_eq_zero (Nat.le_zero.mp enough)
      exact follows_nil fewer whole nothing _
  | succ fuel ih =>
      obtain nothing | ⟨front, name, body⟩ := List.eq_nil_or_concat' parts.body
      · exact follows_nil fewer whole nothing _
      · have outer : outerPaths (fuel + 1) parts =
            (parts.outer front).path :: outerPaths fuel (parts.outer front) := by
          rw [outerPaths, Parts.parent?_eq body]
        have less : (parts.outer front).body.length ≤ fuel := by
          have shorter := (front_dropIdle front).length_le
          rw [body, List.length_append, List.length_singleton] at enough
          exact shorter.trans (Nat.le_of_succ_le_succ enough)
        rw [outer] at done ⊢
        exact follows_cons fewer whole proper body (ih less (proper.outer body)) done

end Tree

/-! ## Writing one document -/

variable {t t' : Tree Document} {p : Path} {document document' : Document}

/-- Where less is there the folders that lead to a document can be made as well. -/
theorem around_follows (fewer : Tree.Fewer t t') (whole : Tree.Whole t) {front : List String}
    {name : String} (body : (parts p).body = front ++ [name])
    (done : (around t' p).problem = none) : (around t p).problem = none ∧
      Tree.Fewer (around t p).tree (around t' p).tree ∧ Tree.Whole (around t p).tree ∧
      ∃ q, (around t p).tree.reach ((around t p).tree.start (parts p).head) front = .ok q := by
  set outer := (parts p).outer front with outer_def
  have proper : outer.Proper := (Parts.proper_parts p).outer body
  have parent : p.parent? = some outer.path := by
    rw [parent?, Parts.parent?_eq body]
    rfl
  unfold around at *
  rw [parent] at done ⊢
  by_cases first : outer.path = ""
  · have filtered : (some outer.path).filter (!·.isEmpty) = none := by simp [first]
    rw [filtered] at done ⊢
    have nothing : dropIdle front = [] := by
      by_contra some_name
      exact proper.path_ne_empty some_name first
    refine ⟨rfl, fewer, whole, _, Tree.reach_of_outer (q := t.start (parts p).head) ?_⟩
    rw [nothing]
    exact Tree.reach_idle (List.forall_mem_nil _) (Tree.folder_start whole.working _)
  · have filtered : (some outer.path).filter (!·.isEmpty) = some outer.path := by
      simp [Option.filter, first]
    rw [filtered] at done ⊢
    have enough := length_body_le outer.path
    rw [proper.parts_path] at enough
    simp only [Tree.makeFolders, proper.parts_path] at done ⊢
    obtain ⟨done, fewer, whole, q, reached⟩ :=
      Tree.follows_makeFirst _ enough fewer whole proper done
    exact ⟨done, fewer, whole, q, Tree.reach_of_outer reached⟩

/-- A document that can be written can be written where less is there. -/
theorem fewer_writeDocument (fewer : Tree.Fewer t t') (whole : Tree.Whole t)
    (document : Document) (done : (writeDocument t' p document').failure = none) :
    (writeDocument t p document).failure = none ∧
      Tree.Fewer (writeDocument t p document).tree (writeDocument t' p document').tree ∧
      Tree.Whole (writeDocument t p document).tree := by
  obtain ⟨made', written'⟩ := writeDocument_eq_iff.mp
    (show writeDocument t' p document' = ⟨(writeDocument t' p document').tree, none⟩ by rw [← done])
  obtain ⟨_, before, name, _, segments, busy, _⟩ := Tree.target_of_writeFile written'
  obtain ⟨front, body, segments⟩ := exists_body_eq segments busy
  obtain ⟨made, fewer, whole, folder, reached⟩ := around_follows fewer whole body made'
  obtain ⟨checked, up, folder', reached', entered, free', tree'⟩ :=
    (Tree.writeFile_eq_ok_iff (fewer.here whole) segments busy).mp written'
  have same := fewer.reach_up reached
  rw [← fewer.start, reached'] at same
  cases same
  have free : (around t p).tree.at? (folder ++ [name]) ≠ some .folder :=
    fun there => free' (fewer.folder there)
  have written : (around t p).tree.writeFile p document =
      .ok ((around t p).tree.put (folder ++ [name]) (.file document)) :=
    (Tree.writeFile_eq_ok_iff whole.working segments busy).mpr
      ⟨checked, up, folder, reached, entered, free, rfl⟩
  have tree : writeDocument t p document =
      ⟨(around t p).tree.put (folder ++ [name]) (.file document), none⟩ :=
    writeDocument_eq_iff.mpr ⟨made, written⟩
  rw [tree, tree']
  exact ⟨rfl, fewer.put (by simp) _, whole.put (Tree.reach_eq_ok_iff.mp reached).2
    fun there => absurd there free⟩

/-- A document that is written leaves more. -/
theorem fewer_of_writeDocument (done : (writeDocument t p document).failure = none) :
    Tree.Fewer t (writeDocument t p document).tree := by
  have same := writeDocument_sameUpTo t p document
  have file {place : Place} {content : Document} (there : t.at? place = some (.file content)) :
      ∃ content', (writeDocument t p document).tree.at? place = some (.file content') := by
    by_cases here : place = t.placeOf p
    · refine ⟨document, Tree.fileAt?_eq_some_iff.mp ?_⟩
      rw [fileAt?_writeDocument done, if_pos here]
    · refine ⟨content, Tree.fileAt?_eq_some_iff.mp ?_⟩
      rw [fileAt?_writeDocument done, if_neg here]
      exact Tree.fileAt?_eq_some_iff.mpr there
  refine ⟨same.working, fun place gone => ?_, fun place there => ?_⟩
  · cases found : t.at? place with
    | none => rfl
    | some entry =>
        cases entry with
        | folder => rw [same.folder place found] at gone; cases gone
        | file content =>
            obtain ⟨content', kept⟩ := file found
            rw [kept] at gone
            cases gone
  · refine ⟨same.folder place, fun folder => ?_⟩
    cases found : t.at? place with
    | none => exact absurd found there
    | some entry =>
        cases entry with
        | folder => rfl
        | file content =>
            obtain ⟨content', kept⟩ := file found
            rw [kept] at folder
            cases folder

end Speedup.Files

namespace Speedup.Progress

open Files

variable {root : Path} {p p' : Progress} {steps steps' : List Step} {within : List Path}
  {rest : List (List Path)}

/-! ## Fewer documents -/

theorem take_unwritten (root : Path) (p : Progress) {step : Step}
    (nothing : step.written? = none) :
    (p.take root step).tree = p.tree ∧ (p.take root step).failure = p.failure := by
  unfold take
  split
  · exact ⟨rfl, rfl⟩
  · cases step with
    | note entry => exact ⟨rfl, rfl⟩
    | print text => exact ⟨rfl, rfl⟩
    | write within document => cases nothing

theorem run_unwritten (root : Path) (p : Progress) (nothing : Step.written steps = []) :
    (p.run root steps).tree = p.tree ∧ (p.run root steps).failure = p.failure := by
  induction steps generalizing p with
  | nil => exact ⟨rfl, rfl⟩
  | cons step rest ih =>
      have each := List.filterMap_eq_nil_iff.mp nothing
      obtain ⟨tree, failure⟩ := ih (p.take root step)
        (List.filterMap_eq_nil_iff.mpr fun s hs => each s (List.mem_cons_of_mem _ hs))
      have taken := take_unwritten root p (each step List.mem_cons_self)
      exact ⟨tree.trans taken.1, failure.trans taken.2⟩

theorem take_write (ready : p.failure = none) (root : Path) (within : List Path)
    (document : Document) : p.take root (.write within document) =
      p.write (Path.below root within) document := by
  simp [take, ready]

theorem exists_write (h : Step.written steps = within :: rest) : ∃ before document after,
    steps = before ++ .write within document :: after ∧ Step.written before = [] ∧
      Step.written after = rest := by
  induction steps with
  | nil => cases h
  | cons step more ih =>
      cases step with
      | write path document =>
          cases h
          exact ⟨[], document, more, rfl, rfl, rfl⟩
      | note entry | print text =>
          obtain ⟨before, document, after, rfl, nothing, later⟩ := ih h
          exact ⟨_ :: before, document, after, rfl, nothing, later⟩

/-- A run that writes only some of the documents of a run that does not fail does not fail
either. -/
theorem failure_run_of_sublist (fewer : Tree.Fewer p.tree p'.tree) (whole : Tree.Whole p.tree)
    (ready : p.failure = none) (ready' : p'.failure = none)
    (some_of : (Step.written steps).Sublist (Step.written steps'))
    (done : (p'.run root steps').failure = none) : (p.run root steps).failure = none := by
  -- The induction is on the run that writes more; the other one takes part in a step if it writes
  -- the same document next.
  induction steps' generalizing p p' steps with
  | nil => rw [(run_unwritten root p (List.sublist_nil.mp some_of)).2, ready]
  | cons step' rest' ih =>
      have taken := failure_take_of_run done
      replace done : ((p'.take root step').run root rest').failure = none := done
      cases written : step'.written? with
      | none =>
          obtain ⟨tree, _⟩ := take_unwritten root p' written
          have same : Step.written (step' :: rest') = Step.written rest' :=
            List.filterMap_cons_none written
          exact ih (tree ▸ fewer) whole ready taken (same ▸ some_of) done
      | some path =>
          obtain ⟨within, document', rfl⟩ :
              ∃ within document', step' = .write within document' := by
            cases step' with
            | write within document' => exact ⟨within, document', rfl⟩
            | _ => cases written
          have one := taken
          rw [take_write ready', failure_write] at one
          have tree' : (p'.take root (.write within document')).tree =
              (writeDocument p'.tree (Path.below root within) document').tree := by
            rw [take_write ready', tree_write]
          obtain skipped | ⟨later', same, others⟩ := List.sublist_cons_iff.mp some_of
          · have more := fewer.trans (fewer_of_writeDocument one)
            exact ih (tree' ▸ more) whole ready taken skipped done
          · obtain ⟨before, document, after, rfl, nothing, later⟩ := exists_write same
            obtain ⟨tree, still⟩ := run_unwritten root p nothing
            rw [ready] at still
            rw [← tree] at fewer whole
            obtain ⟨written, fewer, whole⟩ := fewer_writeDocument fewer whole document one
            rw [run_append]
            show (((p.run root before).take root (.write within document)).run root after).failure =
              none
            have tree'' : ((p.run root before).take root (.write within document)).tree =
                (writeDocument (p.run root before).tree (Path.below root within)
                  document).tree := by
              rw [take_write still, tree_write]
            refine ih (tree' ▸ tree'' ▸ fewer) (tree'' ▸ whole) ?_ taken (later ▸ others) done
            rw [take_write still, failure_write, written]

end Speedup.Progress
