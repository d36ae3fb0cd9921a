import Mathlib.Data.List.Induction
import Speedup.Proofs.Files.Names

/-!
# Writing that cannot fail

A file can be written wherever nothing stands in its way: its names can be entered, no file is on
the way to it, and there is no folder in its place. The folders that lead to it are made, nearest
first, until one is found that is there, and then from that one inwards; what is said of them
(`Made`) is kept from one folder to the next. Documents of which none lies inside of another one
leave room for each other (`Room`), so a run that writes them is never stopped
(`failure_run_eq_none`).
-/

namespace Speedup

open Files

namespace Files.Tree

open Speedup.Path

variable {α : Type} {t : Tree α} {place q : Place} {names more : List String} {name : String}
  {content : α}

/-! ## The way to a folder -/

/-- From a place names lead through folders to a folder. -/
def Leads (t : Tree α) (place : Place) (names : List String) : Prop :=
  ∀ front, front <+: names → t.at? (place ++ front) = some .folder

/-- From a place names lead past no file. -/
def Clear (t : Tree α) (place : Place) (names : List String) : Prop :=
  ∀ front, front <+: names → t.fileAt? (place ++ front) = none

theorem leads_nil_iff : Leads t place [] ↔ t.at? place = some .folder := by
  simp [Leads]

theorem Leads.head (h : Leads t place names) : t.at? place = some .folder := by
  simpa using h [] List.nil_prefix

theorem Leads.last (h : Leads t place names) : t.at? (place ++ names) = some .folder :=
  h names List.prefix_rfl

theorem leads_cons_iff : Leads t place (name :: names) ↔
    t.at? place = some .folder ∧ Leads t (place ++ [name]) names := by
  constructor
  · intro h
    refine ⟨h.head, fun front hf => ?_⟩
    have there := h (name :: front) ((List.prefix_cons_inj name).mpr hf)
    simpa using there
  · rintro ⟨here, rest⟩ front hf
    cases front with
    | nil => simpa using here
    | cons first front =>
        obtain ⟨rfl, before⟩ := List.cons_prefix_cons.mp hf
        simpa using rest front before

theorem leads_concat_iff : Leads t place (names ++ [name]) ↔
    Leads t place names ∧ t.at? (place ++ names ++ [name]) = some .folder := by
  simp only [Leads, List.prefix_concat_iff]
  constructor
  · intro h
    exact ⟨fun front hf => h front (.inr hf), by simpa using h _ (.inl rfl)⟩
  · rintro ⟨before, here⟩ front (rfl | hf)
    · simpa using here
    · exact before front hf

theorem Clear.tail (h : Clear t place (name :: names)) : Clear t (place ++ [name]) names := by
  intro front hf
  have free := h (name :: front) ((List.prefix_cons_inj name).mpr hf)
  simpa using free

theorem Clear.front (h : Clear t place (names ++ more)) : Clear t place names :=
  fun front hf => h front (hf.trans (List.prefix_append _ _))

theorem follow_name (named : IsName name) (fits : name.utf8ByteSize ≤ maxNameLength)
    (here : t.at? place = some .folder) : t.follow place name = .ok (place ++ [name]) :=
  follow_eq_ok_iff.mpr ⟨here, .inr (.inr fits), settleStep_name named.busy named.proper⟩

theorem walk_names (named : ∀ name ∈ names, IsName name)
    (fits : ∀ name ∈ names, name.utf8ByteSize ≤ maxNameLength) (leads : Leads t place names) :
    t.walk place names = .ok (place ++ names) := by
  induction names generalizing place with
  | nil => simp [walk, pure, Except.pure]
  | cons name rest ih =>
      obtain ⟨here, leads⟩ := leads_cons_iff.mp leads
      have first := follow_name (named name List.mem_cons_self) (fits name List.mem_cons_self) here
      refine walk_cons_eq_ok_iff.mpr ⟨_, first, ?_⟩
      rw [ih (fun n hn => named n (List.mem_cons_of_mem _ hn))
        (fun n hn => fits n (List.mem_cons_of_mem _ hn)) leads]
      simp

theorem requireFolder_of_missing (no_folder : t.at? place ≠ some .folder)
    (no_file : t.fileAt? place = none) : t.requireFolder place = .error .notFound := by
  unfold requireFolder
  split
  · rfl
  next content found => simp [fileAt?, found] at no_file
  next found => exact absurd found no_folder

/-- Where no file is on the way the only thing that can be missing is a folder. -/
theorem walk_of_not_leads (named : ∀ name ∈ names, IsName name)
    (fits : ∀ name ∈ names, name.utf8ByteSize ≤ maxNameLength) (clear : Clear t place names)
    (astray : ¬ Leads t place names) :
    (t.walk place names >>= t.requireFolder) = .error .notFound := by
  have no_file : t.fileAt? place = none := by simpa using clear [] List.nil_prefix
  induction names generalizing place with
  | nil => exact requireFolder_of_missing (mt leads_nil_iff.mpr astray) no_file
  | cons name rest ih =>
      show (t.follow place name >>= fun next => t.walk next rest) >>= t.requireFolder = _
      by_cases here : t.at? place = some .folder
      · rw [follow_name (named name List.mem_cons_self) (fits name List.mem_cons_self) here]
        refine ih (fun n hn => named n (List.mem_cons_of_mem _ hn))
          (fun n hn => fits n (List.mem_cons_of_mem _ hn)) clear.tail ?_ ?_
        · exact fun leads => astray (leads_cons_iff.mpr ⟨here, leads⟩)
        · simpa using clear.tail [] List.nil_prefix
      · rw [follow, requireFolder_of_missing here no_file]
        rfl

/-! ## What is done there -/

theorem origin_ofNames (named : ∀ name ∈ names, IsName name) :
    t.origin (ofNames names) = t.working := by
  simp [origin, isAbsolute_ofNames named]

theorem placeOf_ofNames (named : ∀ name ∈ names, IsName name) :
    t.placeOf (ofNames names) = t.working ++ names := by
  by_cases some_name : names = []
  · subst some_name
    simp [placeOf, ofNames, Parts.path, origin, isAbsolute, settleStep, isIdle]
  · rw [placeOf, origin_ofNames named, segments_ofNames named some_name, settle_names named]

theorem target?_ofNames (writable : Writable (names ++ [name])) :
    t.target? (ofNames (names ++ [name])) = (do
      let folder ← t.walk t.working names
      t.requireFolder folder
      return some ⟨folder, name, false⟩) := by
  have busy : name ≠ "" := by
    rintro rfl
    exact absurd (writable.named "" (by simp)).busy (by decide)
  unfold target?
  rw [writable.check (by simp), segments_ofNames writable.named (by simp),
    origin_ofNames writable.named]
  have open_end : (name == "") = false := by simpa using busy
  simp [open_end, bind, Except.bind]

theorem target?_of_leads (writable : Writable (names ++ [name]))
    (leads : Leads t t.working names) : t.target? (ofNames (names ++ [name])) =
      .ok (some ⟨t.working ++ names, name, false⟩) := by
  rw [target?_ofNames writable, walk_names writable.front.named writable.front.fits leads]
  simp [bind, Except.bind, requireFolder, leads.last, pure, Except.pure]

theorem target?_of_not_leads (writable : Writable (names ++ [name]))
    (clear : Clear t t.working names) (astray : ¬ Leads t t.working names) :
    t.target? (ofNames (names ++ [name])) = .error .notFound := by
  have missing := walk_of_not_leads writable.front.named writable.front.fits clear astray
  rw [target?_ofNames writable]
  cases walked : t.walk t.working names with
  | error problem =>
      rw [walked] at missing
      cases missing
      rfl
  | ok folder =>
      rw [walked] at missing
      have nothing : t.requireFolder folder = .error .notFound := missing
      simp [bind, Except.bind, nothing]

theorem makeFolder_of_leads (writable : Writable (names ++ [name]))
    (leads : Leads t t.working names) : t.makeFolder (ofNames (names ++ [name])) =
      if (t.at? (t.working ++ names ++ [name])).isSome then .error .exists
      else .ok (t.put (t.working ++ names ++ [name]) .folder) := by
  have named := writable.named name (by simp)
  have fits := writable.fits name (by simp)
  unfold makeFolder
  rw [target?_of_leads writable leads]
  simp [bind, Except.bind, named.busy, named.proper, enter, Nat.not_lt_of_le fits, pure,
    Except.pure]

theorem makeFolder_of_not_leads (writable : Writable (names ++ [name]))
    (clear : Clear t t.working names) (astray : ¬ Leads t t.working names) :
    t.makeFolder (ofNames (names ++ [name])) = .error .notFound := by
  unfold makeFolder
  rw [target?_of_not_leads writable clear astray]
  rfl

theorem writeFile_of_leads (writable : Writable (names ++ [name]))
    (leads : Leads t t.working names)
    (free : t.at? (t.working ++ names ++ [name]) ≠ some .folder) (content : α) :
    t.writeFile (ofNames (names ++ [name])) content =
      .ok (t.put (t.working ++ names ++ [name]) (.file content)) := by
  have named := writable.named name (by simp)
  have fits := writable.fits name (by simp)
  unfold writeFile
  rw [target?_of_leads writable leads]
  simp [bind, Except.bind, named.busy, named.proper, enter, Nat.not_lt_of_le fits, pure,
    Except.pure]
  rw [List.append_assoc] at free
  split
  next there => exact absurd there free
  · rfl

theorem isFolder_of_leads (writable : Writable names) (some_name : names ≠ [])
    (leads : Leads t t.working names) : t.isFolder (ofNames names) = true := by
  refine isFolder_iff_find.mpr (find_eq_ok_iff.mpr
    ⟨writable.check some_name, t.working ++ names, ?_, leads.last⟩)
  rw [origin_ofNames writable.named, segments_ofNames writable.named some_name]
  exact walk_names writable.named writable.fits leads

/-! ## Folders that are made -/

/-- The folders on a way are there, and the only new ones are among them. -/
structure Made (t : Tree α) (names : List String) (result : Result α) : Prop where
  done : result.problem = none
  leads : Leads result.tree t.working names
  new : ∀ q, result.tree.at? q = some .folder →
    t.at? q = some .folder ∨ ∃ front, front <+: names ∧ q = t.working ++ front

theorem Made.trans {around result : Result α} (first : Made t names around)
    (same : around.tree.working = t.working) (whole : Made around.tree (names ++ more) result) :
    Made t (names ++ more) result where
  done := whole.done
  leads := same ▸ whole.leads
  new := by
    intro q there
    obtain there | new := whole.new q there
    · refine (first.new q there).imp_right ?_
      rintro ⟨front, hf, rfl⟩
      exact ⟨front, hf.trans (List.prefix_append _ _), rfl⟩
    · exact .inr (same ▸ new)

/-- The last folder of a way, if the others are there. -/
theorem made_orThere (writable : Writable (names ++ [name])) (leads : Leads t t.working names)
    (clear : Clear t t.working (names ++ [name])) :
    Made t (names ++ [name])
      (t.orThere (ofNames (names ++ [name])) (t.makeFolder (ofNames (names ++ [name])))) := by
  rw [makeFolder_of_leads writable leads]
  have no_file := clear _ List.prefix_rfl
  rw [← List.append_assoc] at no_file
  set place := t.working ++ names ++ [name] with place_def
  split
  next there =>
    have folder : t.at? place = some .folder := by
      obtain ⟨entry, found⟩ := Option.isSome_iff_exists.mp there
      cases entry with
      | folder => exact found
      | file content => simp [fileAt?, found] at no_file
    have whole : Leads t t.working (names ++ [name]) := leads_concat_iff.mpr ⟨leads, folder⟩
    have is_folder := isFolder_of_leads writable (by simp) whole
    exact ⟨by simp [orThere, is_folder], whole, fun q hq => .inl hq⟩
  next free =>
    have below : place ≠ [] := by simp [place_def]
    have grown : SameUpTo [] t (t.put place .folder) := .put_folder (by simpa using free)
    refine ⟨rfl, leads_concat_iff.mpr ⟨?_, at?_put_self below _⟩, fun q hq => ?_⟩
    · exact fun front hf => grown.folder _ (leads front hf)
    · by_cases here : q = place
      · exact .inr ⟨names ++ [name], List.prefix_rfl, by rw [here, place_def, List.append_assoc]⟩
      · have there : (t.put place .folder).at? q = some .folder := hq
        exact .inl (by rwa [at?_put_of_ne here] at there)

/-- Every folder of a way is made, if no file is in it. -/
theorem made_makeFirst (fuel : Nat) (enough : names.length ≤ fuel)
    (here : t.at? t.working = some .folder) (writable : Writable names)
    (clear : Clear t t.working names) :
    Made t names (t.makeFirst (ofNames names :: outerPaths fuel ⟨.none, names⟩)) := by
  induction names using List.reverseRecOn generalizing fuel with
  | nil => exact ⟨rfl, leads_nil_iff.mpr here, fun q hq => .inl hq⟩
  | append_singleton names name ih =>
      obtain ⟨fuel, rfl⟩ : ∃ less, fuel = less + 1 := ⟨fuel - 1, by simp at enough; omega⟩
      have some_char : (ofNames (names ++ [name])).isEmpty = false := by
        simpa using ofNames_ne_empty writable.named (by simp)
      have outer : outerPaths (fuel + 1) ⟨.none, names ++ [name]⟩ =
          ofNames names :: outerPaths fuel ⟨.none, names⟩ := by
        rw [outerPaths, Parts.parent?_names writable.front.named]
        rfl
      rw [makeFirst, some_char, if_neg Bool.false_ne_true, outer]
      -- The folders around the last one are either all there, or made first by the hypothesis of
      -- the induction.
      by_cases leads : Leads t t.working names
      · have made := made_orThere writable leads clear
        rw [makeFolder_of_leads writable leads] at made ⊢
        split
        next missing => split at missing <;> cases missing
        · exact made
      · rw [makeFolder_of_not_leads writable clear.front leads]
        have same := makeFirst_sameUpTo t (ofNames names :: outerPaths fuel ⟨.none, names⟩)
        have around := ih fuel (by simpa using enough) writable.front clear.front
        have no_file : Clear _ _ (names ++ [name]) := fun front hf =>
          (same.file _ List.not_mem_nil).trans (clear front hf)
        rw [← same.working] at no_file
        have whole := made_orThere writable (same.working ▸ around.leads) no_file
        have made := around.trans same.working whole
        simpa [around.done] using made

theorem length_ofNames (names : List String) : names.length ≤ (ofNames names).length + 1 := by
  induction names with
  | nil => exact Nat.zero_le _
  | cons name rest ih =>
      by_cases last : rest = []
      · simp [last]
      · rw [ofNames_cons last, List.length_cons, String.length_append, String.length_append]
        have slash : "/".length = 1 := rfl
        omega

theorem made_makeFolders (here : t.at? t.working = some .folder) (writable : Writable names)
    (clear : Clear t t.working names) : Made t names (t.makeFolders (ofNames names)) := by
  rw [makeFolders, parts_ofNames writable.named]
  exact made_makeFirst _ (length_ofNames names) here writable clear

end Files.Tree

/-! ## Documents -/

namespace Files

open Speedup.Path

variable {t : Tree Document} {names : List String} {name : String} {root : Path}
  {files : List (List String)}

theorem Tree.folder_of_put_file {α : Type} {t : Tree α} {place q : Place} {content : α}
    (h : (t.put place (.file content)).at? q = some .folder) : t.at? q = some .folder := by
  by_cases here : q = place
  · subst here
    by_cases at_root : q = []
    · rw [at_root]
      rfl
    · rw [Tree.at?_put_self at_root] at h
      cases h
  · rwa [Tree.at?_put_of_ne here] at h

theorem made_around (here : t.at? t.working = some .folder) (writable : Writable (names ++ [name]))
    (clear : Tree.Clear t t.working names) :
    Tree.Made t names (around t (ofNames (names ++ [name]))) := by
  unfold around
  rw [parent?_ofNames writable.named]
  by_cases first : names = []
  · subst first
    exact ⟨rfl, Tree.leads_nil_iff.mpr here, fun q hq => .inl hq⟩
  · have some_char : (ofNames names).isEmpty = false := by
      simpa using ofNames_ne_empty writable.front.named first
    have filtered : (some (ofNames names)).filter (!·.isEmpty) = some (ofNames names) := by
      simp [Option.filter, some_char]
    rw [filtered]
    exact Tree.made_makeFolders here writable.front clear

/-- A document can be written where nothing stands in its way, and no folder is made but on the way
to it. -/
theorem writeDocument_of_clear (here : t.at? t.working = some .folder)
    (writable : Writable (names ++ [name])) (clear : Tree.Clear t t.working names)
    (free : t.at? (t.working ++ names ++ [name]) ≠ some .folder) (document : Document) :
    (writeDocument t (ofNames (names ++ [name])) document).failure = none ∧
    ∀ q, (writeDocument t (ofNames (names ++ [name])) document).tree.at? q = some .folder →
      t.at? q = some .folder ∨ ∃ front, front <+: names ∧ q = t.working ++ front := by
  have folders := made_around here writable clear
  have same := (around_sameUpTo t (ofNames (names ++ [name]))).working
  set made := (around t (ofNames (names ++ [name]))).tree
  have leads : Tree.Leads made made.working names := same ▸ folders.leads
  have still_free : made.at? (made.working ++ names ++ [name]) ≠ some .folder := by
    rw [same]
    intro there
    obtain there | ⟨front, hf, place⟩ := folders.new _ there
    · exact free there
    · rw [List.append_assoc, List.append_right_inj] at place
      have shorter := hf.length_le
      rw [← place, List.length_append, List.length_singleton] at shorter
      omega
  have written := Tree.writeFile_of_leads writable leads still_free document
  rw [writeDocument_eq_iff.mpr ⟨folders.done, written⟩]
  exact ⟨rfl, fun q hq => folders.new q (Tree.folder_of_put_file hq)⟩

/-! ## Documents that leave room for each other -/

/-- All of some files can be written: no folder is in the place of one, and none lies on the way to
another one. -/
structure Room (t : Tree Document) (files : List (List String)) : Prop where
  here : t.at? t.working = some .folder
  clear : ∀ names name, names ++ [name] ∈ files → Tree.Clear t t.working names
  free : ∀ names ∈ files, t.at? (t.working ++ names) ≠ some .folder

/-- Of some files none would be a folder to another one. -/
def Apart (files : List (List String)) : Prop :=
  ∀ a ∈ files, ∀ b ∈ files, a <+: b → a = b

theorem Room.writeDocument (room : Room t files) (apart : Apart files)
    (writable : Writable (names ++ [name])) (among : names ++ [name] ∈ files)
    (document : Document) :
    (writeDocument t (ofNames (names ++ [name])) document).failure = none ∧
      Room (writeDocument t (ofNames (names ++ [name])) document).tree files := by
  have free := room.free _ among
  rw [← List.append_assoc] at free
  obtain ⟨done, folders⟩ :=
    writeDocument_of_clear room.here writable (room.clear names name among) free document
  have same := writeDocument_sameUpTo t (ofNames (names ++ [name])) document
  rw [Tree.placeOf_ofNames writable.named] at same
  -- Neither the new file nor a folder on the way to it can stand in the way of another file.
  have shorter {front : List String} {name' : String} {names' : List String}
      (hf : front <+: names') : front ≠ names' ++ [name'] := by
    rintro rfl
    have length := hf.length_le
    rw [List.length_append, List.length_singleton] at length
    omega
  refine ⟨done, ⟨?_, ?_, ?_⟩⟩
  · rw [same.working]
    exact same.folder _ room.here
  · intro names' name' among' front hf
    rw [same.working, same.file, room.clear names' name' among' front hf]
    intro written
    rw [List.mem_singleton, List.append_right_inj] at written
    have inside := apart _ among _ among'
      (written ▸ hf.trans (List.prefix_append names' [name']))
    exact shorter hf (written.trans inside)
  · intro names' among' there
    rw [same.working] at there
    obtain there | ⟨front, hf, place⟩ := folders _ there
    · exact room.free names' among' there
    · rw [List.append_right_inj] at place
      subst place
      have inside := apart _ among' _ among (hf.trans (List.prefix_append names [name]))
      exact shorter hf inside

end Files

namespace Progress

open Speedup.Path Files

variable {root : Path} {p : Progress} {steps : List Step} {files : List (List String)}

/-- Documents that leave room for each other can all be written. -/
theorem failure_run_eq_none (room : Room p.tree files) (apart : Apart files)
    (ready : p.failure = none)
    (writes : ∀ within ∈ Step.written steps, ∃ names name, Path.below root within =
      ofNames (names ++ [name]) ∧ names ++ [name] ∈ files ∧ Writable (names ++ [name])) :
    (p.run root steps).failure = none := by
  induction steps generalizing p with
  | nil => exact ready
  | cons step rest ih =>
      show ((p.take root step).run root rest).failure = none
      have going : p.failure.isSome = false := by simp [ready]
      unfold take
      rw [if_neg (by simp [going])]
      cases step with
      | note entry => exact ih room ready writes
      | print text => exact ih room ready writes
      | write within document =>
          obtain ⟨names, name, path, among, writable⟩ := writes within List.mem_cons_self
          obtain ⟨done, room⟩ := room.writeDocument apart writable among document
          rw [← path, ← tree_write] at room
          rw [← path, ← failure_write] at done
          exact ih room done fun within' later => writes within' (List.mem_cons_of_mem _ later)

end Progress

end Speedup
