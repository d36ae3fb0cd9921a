import Speedup.Proofs.Files.Fewer
import Speedup.Proofs.Files.Making

/-!
# Documents written one after the other

Writing a document can fail because of what earlier calls have left, after folders have been made
or before, and the next call begins with whatever is there then. One thing is kept by all calls,
whether they succeed or not: the folder around everything is there (`whole_writeDocument`). So no
file is ever on the way to anything else, and a document under proper names is only refused where
it would be inside of a file or in the place of a folder (`failure_writeDocument_iff`). Files are
changed by calls that succeed alone, and each of them changes the file at its place alone; after any
calls a file holds what the last of these has written there (`fileAt?_writeEach`).
-/

namespace Speedup.Files

open Speedup.Path Ordered

namespace Tree

variable {α : Type} {t t' : Tree α} {place q : Place} {p : Path} {content : α}

/-! ## Trees stay without gaps -/

theorem inside_of_target? {target : Target} (h : t.target? p = .ok (some target)) :
    t.at? target.folder = some .folder := by
  unfold target? at h
  obtain ⟨_, _, h⟩ := bind_eq_ok_iff.mp h
  dsimp only at h
  split at h
  · cases h
  · obtain ⟨folder, _, h⟩ := bind_eq_ok_iff.mp h
    obtain ⟨_, inside, h⟩ := bind_eq_ok_iff.mp h
    cases h
    exact requireFolder_eq_ok_iff.mp inside

theorem whole_makeFolder (whole : Whole t) (h : t.makeFolder p = .ok t') : Whole t' := by
  unfold makeFolder at h
  obtain ⟨target?, targeted, h⟩ := bind_eq_ok_iff.mp h
  split at h
  · cases h
  next target =>
    split at h
    · cases h
    · obtain ⟨place, entered, h⟩ := bind_eq_ok_iff.mp h
      obtain ⟨rfl, _⟩ := enter_eq_ok entered
      split at h
      · cases h
      · cases h
        exact whole.put (inside_of_target? targeted) fun _ => rfl

theorem whole_orThere {made : Except Problem (Tree α)} (whole : Whole t)
    (h : ∀ t', made = .ok t' → Whole t') : Whole (t.orThere p made).tree := by
  cases made with
  | ok t' => exact h t' rfl
  | error problem => exact whole

theorem whole_makeFirst (whole : Whole t) (paths : List Path) :
    Whole (t.makeFirst paths).tree := by
  induction paths with
  | nil => exact whole
  | cons p outer ih =>
      unfold makeFirst
      split
      · exact whole
      · split
        · dsimp only
          split
          · exact ih
          · exact whole_orThere ih fun _ => whole_makeFolder ih
        · exact whole_orThere whole fun _ => whole_makeFolder whole

theorem whole_writeFile (whole : Whole t) (h : t.writeFile p content = .ok t') : Whole t' := by
  obtain ⟨_, _, _, _, _, _, _, _, _, inside, free, rfl⟩ := target_of_writeFile h
  exact whole.put inside fun there => absurd there free

theorem SameUpTo.start {places : List Place} (same : SameUpTo places t t') (head : Head) :
    t'.start head = t.start head := by
  unfold Tree.start
  rw [same.working]

/-- All that leads to something are folders. -/
theorem Whole.folder_above (whole : Whole t) {front : Place} (there : t.at? place ≠ none)
    (before : front <+: place) (proper : front ≠ place) : t.at? front = some .folder := by
  induction place using List.reverseRecOn with
  | nil => exact absurd (List.prefix_nil.mp before) proper
  | append_singleton place name ih =>
      have around := whole.around _ there
      rw [List.dropLast_concat] at around
      rcases List.prefix_concat_iff.mp before with same | before
      · exact absurd same proper
      · by_cases last : front = place
        · exact last ▸ around
        · exact ih (by simp [around]) before last

/-- Nothing is inside of a file. -/
theorem Whole.eq_of_file (whole : Whole t) (file : t.fileAt? place ≠ none) (there : t.at? q ≠ none)
    (inside : place <+: q) : place = q := by
  by_contra proper
  have folder := whole.folder_above there inside proper
  exact file (fileAt?_eq_none_of (by simp [folder]))

/-- However paths are spelled, none leads to a folder at or below the file of another. -/
theorem Whole.not_inside_of_isFile (whole : Whole t) {p' : Path} (file : t.isFile p = true)
    (folder : t.isFolder p' = true) : ¬ t.placeOf p <+: t.placeOf p' := by
  intro inside
  obtain ⟨_, found⟩ := isFile_iff_find.mp file
  have at_file := at?_of_find found
  have at_folder := at?_of_find (isFolder_iff_find.mp folder)
  have same := whole.eq_of_file (by simp [fileAt?_eq_some_iff.mpr at_file]) (by simp [at_folder])
    inside
  rw [← same, at_file] at at_folder
  cases at_folder

def ways (working : Place) : List (Place × Entry α) :=
  (List.range working.length).map fun n => (working.take (n + 1), .folder)

theorem mem_ways_iff {working : Place} (below : place ≠ []) :
    place ∈ (ways working : List (Place × Entry α)).map (·.1) ↔ place <+: working := by
  simp only [ways, List.map_map, List.mem_map, List.mem_range, Function.comp_apply]
  constructor
  · rintro ⟨n, _, rfl⟩
    exact List.take_prefix _ _
  · intro before
    have some_name := List.length_pos_iff.mpr below
    refine ⟨place.length - 1, ?_, ?_⟩
    · have length := before.length_le
      omega
    · rw [Nat.sub_add_cancel some_name]
      exact (List.prefix_iff_eq_take.mp before).symm

theorem at?_bare (working place : Place) : (bare working : Tree α).at? place =
    if place <+: working then some .folder else none := by
  by_cases at_root : place = []
  · rw [at_root, if_pos List.nil_prefix]
    rfl
  · have found : (bare working : Tree α).at? place =
        (Table.valuesUnder place (ways working)).getLast? := by
      rw [at?, if_neg (by simpa using at_root)]
      exact Table.get?_ofList _ _
    have folders : ∀ entry ∈ Table.valuesUnder place (ways working),
        entry = (.folder : Entry α) := by
      intro entry mem
      obtain ⟨way, listed, rfl⟩ := List.mem_map.mp mem
      obtain ⟨n, _, rfl⟩ := List.mem_map.mp (List.mem_filter.mp listed).1
      rfl
    rw [found]
    split
    next before =>
      have there : Table.valuesUnder place (ways working : List (Place × Entry α)) ≠ [] :=
        Table.mem_map_fst_iff.mp ((mem_ways_iff at_root).mpr before)
      rw [List.getLast?_eq_some_getLast there, folders _ (List.getLast_mem there)]
    next other =>
      rw [List.getLast?_eq_none_iff]
      by_contra there
      exact other ((mem_ways_iff at_root).mp (Table.mem_map_fst_iff.mpr there))

theorem whole_bare (working : Place) : Whole (bare working : Tree α) where
  working := by
    rw [at?_bare]
    exact if_pos List.prefix_rfl
  around place there := by
    rw [at?_bare] at there ⊢
    split at there
    next before => exact if_pos ((List.dropLast_prefix place).trans before)
    next => exact absurd rfl there

end Tree

/-! ## One call -/

variable {t : Tree Document} {p : Path} {document : Document}

theorem whole_around (whole : t.Whole) (p : Path) : (around t p).tree.Whole := by
  unfold around
  split
  · exact whole
  · exact Tree.whole_makeFirst whole _

/-- Whether it succeeds or not, a call leaves no gaps. -/
theorem whole_writeDocument (whole : t.Whole) (p : Path) (document : Document) :
    (writeDocument t p document).tree.Whole := by
  rcases writeDocument_around t p document with ⟨_, unwritten⟩ | ⟨_, _, written⟩
  · rw [unwritten]
    exact whole_around whole p
  · exact Tree.whole_writeFile (whole_around whole p) written

/-- A call that fails changes no file. -/
theorem fileAt?_of_failure (failed : (writeDocument t p document).failure ≠ none) (place : Place) :
    (writeDocument t p document).tree.fileAt? place = t.fileAt? place := by
  rcases writeDocument_around t p document with ⟨_, unwritten⟩ | ⟨done, _⟩
  · rw [unwritten]
    exact (around_sameUpTo t p).file place List.not_mem_nil
  · exact absurd done failed

theorem Tree.check_of_makeFirst {α : Type} {t : Tree α} {p : Path} {outer : List Path}
    (some_char : p ≠ "") (done : (t.makeFirst (p :: outer)).problem = none) : check p = .ok () := by
  by_cases missing : t.makeFolder p = .error .notFound
  · exact check_of_makeFolder some_char missing
  · rw [makeFirst_of_not_missing (by simpa using some_char) missing] at done
    exact check_of_orThere done

theorem check_of_around {outer : Path} (parent : p.parent? = some outer) (some_char : outer ≠ "")
    (made : (around t p).problem = none) : Tree.check outer = .ok () := by
  have filtered : p.parent?.filter (!·.isEmpty) = some outer := by
    rw [parent]
    simp [Option.filter, some_char]
  unfold around at made
  rw [filtered] at made
  exact Tree.check_of_makeFirst some_char made

/-- The folder of a file that is written can be found by the path that leads to the file's. -/
theorem isFolder_of_parent? (whole : t.Whole) (done : (writeDocument t p document).failure = none)
    {outer : Path} (parent : p.parent? = some outer) (some_char : outer ≠ "") :
    (writeDocument t p document).tree.isFolder outer = true := by
  rcases writeDocument_around t p document with ⟨failed, _⟩ | ⟨_, made, written⟩
  · exact absurd done failed
  · obtain ⟨_, before, name, _, segments, busy, _⟩ := Tree.target_of_writeFile written
    obtain ⟨front, body, segments⟩ := exists_body_eq segments busy
    obtain ⟨_, _, folder, reached, _⟩ :=
      (Tree.writeFile_eq_ok_iff (whole_around whole p).working segments busy).mp written
    have path : ((parts p).outer front).path = outer := by
      rw [parent?, Parts.parent?_eq body] at parent
      exact Option.some.inj parent
    have proper := (Parts.proper_parts p).outer body
    have same := Tree.writeFile_sameUpTo written
    obtain ⟨inner, reached⟩ := Tree.exists_reach_outer reached
    obtain ⟨walked, here⟩ := Tree.reach_eq_ok_iff.mp reached
    refine (Tree.isFolder_iff (whole_writeDocument whole p document).working outer).mpr
      ⟨check_of_around parent some_char made, inner, ?_⟩
    rw [← path, proper.parts_path]
    show Tree.reach _ (Tree.start _ (parts p).head) (dropIdle front) = _
    rw [same.start]
    exact Tree.reach_eq_ok_iff.mpr ⟨same.walk walked, same.folder _ here⟩

/-- A document that could be written had no file on the way to it, and no folder in its place. -/
theorem clear_of_writeDocument (whole : t.Whole) {names : List String} {name : String}
    (writable : Writable (names ++ [name]))
    (done : (writeDocument t (ofNames (names ++ [name])) document).failure = none) :
    Tree.Clear t t.working names ∧ t.at? (t.working ++ names ++ [name]) ≠ some .folder := by
  have same := writeDocument_sameUpTo t (ofNames (names ++ [name])) document
  have whole' := whole_writeDocument whole (ofNames (names ++ [name])) document
  have file := fileAt?_writeDocument done
  rw [Tree.placeOf_ofNames writable.named, ← List.append_assoc] at file
  set place := t.working ++ names ++ [name] with place_def
  have there := Tree.fileAt?_eq_some_iff.mp ((file place).trans (if_pos rfl))
  constructor
  · intro front hf
    by_contra in_the_way
    have shorter : t.working ++ front ≠ place := by
      intro same_place
      have length := congrArg List.length same_place
      have less := hf.length_le
      simp only [place_def, List.length_append, List.length_singleton] at length
      omega
    have inside : t.working ++ front <+: place := by
      rw [place_def, List.append_assoc]
      exact (List.prefix_append_right_inj _).mpr (hf.trans (List.prefix_append _ _))
    -- A file on the way would still be there, with the document inside of it.
    have still := (file (t.working ++ front)).trans (if_neg shorter)
    exact shorter (whole'.eq_of_file (still ▸ in_the_way) (by simp [there]) inside)
  · intro folder
    rw [same.folder _ folder] at there
    cases there

/-- A document cannot be written just if a file is on the way to it or a folder in its place, where
the path consists of names that the system takes. -/
theorem failure_writeDocument_iff (whole : t.Whole) {names : List String} {name : String}
    (writable : Writable (names ++ [name])) :
    (writeDocument t (ofNames (names ++ [name])) document).failure ≠ none ↔
      (∃ front, front <+: names ∧ t.fileAt? (t.working ++ front) ≠ none) ∨
        t.at? (t.working ++ names ++ [name]) = some .folder := by
  have room : (writeDocument t (ofNames (names ++ [name])) document).failure = none ↔
      Tree.Clear t t.working names ∧ t.at? (t.working ++ names ++ [name]) ≠ some .folder := by
    constructor
    · exact clear_of_writeDocument whole writable
    · rintro ⟨clear, free⟩
      exact (writeDocument_of_clear whole.working writable clear free document).1
  rw [ne_eq, room, not_and_or, not_not, Tree.Clear]
  push Not
  rfl

/-! ## Calls one after the other -/

abbrev Call := Path × Document

variable {calls before after : List Call} {call : Call}

/-- What calls leave behind, whether they succeed or not. -/
def writeEach (t : Tree Document) (calls : List Call) : Tree Document :=
  calls.foldl (fun t call => (writeDocument t call.1 call.2).tree) t

def succeeding (t : Tree Document) : List Call → List Call
  | [] => []
  | call :: rest =>
    let written := writeDocument t call.1 call.2
    (if written.failure.isNone then [call] else []) ++ succeeding written.tree rest

/-- The last of some documents that belong to a place. -/
def lastAt (t : Tree Document) (place : Place) (calls : List Call) : Option Document :=
  ((calls.filter fun call => t.placeOf call.1 = place).getLast?).map (·.2)

theorem lastAt_append (t : Tree Document) (place : Place) (before after : List Call) :
    lastAt t place (before ++ after) = (lastAt t place after).or (lastAt t place before) := by
  rw [lastAt, List.filter_append, List.getLast?_append, Option.map_or]
  rfl

theorem writeEach_append (t : Tree Document) (before after : List Call) :
    writeEach t (before ++ after) = writeEach (writeEach t before) after := List.foldl_append

theorem writeEach_sameUpTo (t : Tree Document) (calls : List Call) :
    Tree.SameUpTo (calls.map fun call => t.placeOf call.1) t (writeEach t calls) := by
  induction calls generalizing t with
  | nil => exact .refl t
  | cons call rest ih =>
      have first := writeDocument_sameUpTo t call.1 call.2
      have later := ih (writeDocument t call.1 call.2).tree
      simp only [first.placeOf] at later
      exact first.trans later

theorem whole_writeEach (whole : t.Whole) (calls : List Call) : (writeEach t calls).Whole := by
  induction calls generalizing t with
  | nil => exact whole
  | cons call rest ih => exact ih (whole_writeDocument whole call.1 call.2)

/-- After some calls a file holds what the last successful one at its place has written, or what it
held before. -/
theorem fileAt?_writeEach (t : Tree Document) (calls : List Call) (place : Place) :
    (writeEach t calls).fileAt? place =
      (lastAt t place (succeeding t calls)).or (t.fileAt? place) := by
  induction calls generalizing t with
  | nil => rfl
  | cons call rest ih =>
      have same := writeDocument_sameUpTo t call.1 call.2
      have later : lastAt (writeDocument t call.1 call.2).tree place =
          lastAt t place := by
        funext calls
        simp only [lastAt, same.placeOf]
      show (writeEach (writeDocument t call.1 call.2).tree rest).fileAt? place = _
      rw [ih, later, succeeding]
      cases done : (writeDocument t call.1 call.2).failure with
      | none =>
          rw [fileAt?_writeDocument done, Option.isNone_none, if_pos rfl, lastAt_append,
            Option.or_assoc]
          congr 1
          by_cases here : place = t.placeOf call.1
          · simp [lastAt, here]
          · simp [lastAt, here, Ne.symm here]
      | some failure =>
          rw [fileAt?_of_failure (by simp [done])]
          rfl

theorem exists_of_mem_succeeding (h : call ∈ succeeding t calls) : ∃ before after,
    calls = before ++ call :: after ∧
      (writeDocument (writeEach t before) call.1 call.2).failure = none := by
  induction calls generalizing t with
  | nil => cases h
  | cons first rest ih =>
      rcases List.mem_append.mp h with here | later
      · split at here
        next done =>
          cases List.mem_singleton.mp here
          exact ⟨[], rest, rfl, Option.isNone_iff_eq_none.mp done⟩
        next => cases here
      · obtain ⟨before, after, rfl, done⟩ := ih later
        exact ⟨first :: before, after, rfl, done⟩

/-- What has been written can be read under the same path after all calls, unless a later one has
replaced it. -/
theorem read_writeEach (h : call ∈ succeeding t calls) :
    ∃ document, lastAt t (t.placeOf call.1) (succeeding t calls) = some document ∧
      (writeEach t calls).read call.1 = .ok document := by
  have some_last : lastAt t (t.placeOf call.1) (succeeding t calls) ≠ none := by
    have among : call ∈ (succeeding t calls).filter
        fun other => t.placeOf other.1 = t.placeOf call.1 :=
      List.mem_filter.mpr ⟨h, decide_eq_true rfl⟩
    rw [lastAt, ne_eq, Option.map_eq_none_iff, List.getLast?_eq_none_iff]
    exact List.ne_nil_of_mem among
  obtain ⟨document, last⟩ := Option.ne_none_iff_exists'.mp some_last
  refine ⟨document, last, ?_⟩
  have file := fileAt?_writeEach t calls (t.placeOf call.1)
  rw [last, Option.some_or, Tree.fileAt?_eq_some_iff] at file
  -- Its path could be followed when it was written, and still can.
  obtain ⟨before, after, rfl, done⟩ := exists_of_mem_succeeding h
  have start := writeEach_sameUpTo t before
  have written := writeDocument_sameUpTo (writeEach t before) call.1 call.2
  set t' := (writeDocument (writeEach t before) call.1 call.2).tree
  have later := writeEach_sameUpTo t' after
  have whole_run : writeEach t' after = writeEach t (before ++ call :: after) :=
    (writeEach_append t before (call :: after)).symm
  rw [whole_run] at later
  obtain ⟨checked, place, walked, _⟩ :=
    Tree.find_eq_ok_iff.mp (Tree.read_eq_ok_iff.mp (read_writeDocument done))
  have at_place : t.placeOf call.1 = place := by
    rw [← start.placeOf, ← written.placeOf]
    exact Tree.walk_eq_ok walked
  have origin : (writeEach t (before ++ call :: after)).origin call.1 = t'.origin call.1 := by
    unfold Tree.origin
    rw [later.working]
  refine Tree.read_eq_ok_iff.mpr (Tree.find_eq_ok_iff.mpr ⟨checked, place, ?_, at_place ▸ file⟩)
  rw [origin]
  exact later.walk walked

/-! ## What is kept -/

/-- What a call does to the tree in which it is made. -/
structure Effect (t : Tree Document) (p : Path) (document : Document) (written : Written) :
    Prop where
  /-- If it succeeds, the document is there and so are all folders that lead to it. -/
  content : written.failure = none → written.tree.read p = .ok document
  folders : written.failure = none → ∀ front, front <+: t.placeOf p → front ≠ t.placeOf p →
    written.tree.at? front = some .folder
  parent : written.failure = none → ∀ outer ∈ p.parent?, outer ≠ "" →
    written.tree.isFolder outer = true
  /-- All other files stay as they are, and if it fails all files do. -/
  others : written.failure = none → ∀ place ≠ t.placeOf p,
    written.tree.fileAt? place = t.fileAt? place
  unchanged : written.failure ≠ none → ∀ place, written.tree.fileAt? place = t.fileAt? place
  kept : ∀ place, t.at? place = some .folder → written.tree.at? place = some .folder
  /-- Under names that the system takes it fails only where a file or a folder is in the way. -/
  fails_iff : ∀ names name, Writable (names ++ [name]) → p = ofNames (names ++ [name]) →
    (written.failure ≠ none ↔
      (∃ front, front <+: names ∧ t.fileAt? (t.working ++ front) ≠ none) ∨
        t.at? (t.working ++ names ++ [name]) = some .folder)

theorem effect_writeDocument (whole : t.Whole) (p : Path) (document : Document) :
    Effect t p document (writeDocument t p document) where
  content := read_writeDocument
  folders done front before proper := by
    have file := (fileAt?_writeDocument done (t.placeOf p)).trans (if_pos rfl)
    have there := Tree.fileAt?_eq_some_iff.mp file
    exact (whole_writeDocument whole p document).folder_above (by simp [there]) before proper
  parent done _ parent some_char := isFolder_of_parent? whole done parent some_char
  others done place other := (fileAt?_writeDocument done place).trans (if_neg other)
  unchanged failed := fileAt?_of_failure failed
  kept := (writeDocument_sameUpTo t p document).folder
  fails_iff _ _ writable path := path ▸ failure_writeDocument_iff whole writable

/-- What is known of calls made one after the other where nothing was before. -/
structure Sequence (t : Tree Document) (calls : List Call) : Prop where
  each : ∀ before call after, calls = before ++ call :: after →
    Effect (writeEach t before) call.1 call.2
      (writeDocument (writeEach t before) call.1 call.2)
  /-- In the end a file holds what the last call that succeeded at its place has written, and there
  is no other file. -/
  files : ∀ place, (writeEach t calls).fileAt? place = lastAt t place (succeeding t calls)
  read : ∀ call ∈ succeeding t calls, ∃ document,
    lastAt t (t.placeOf call.1) (succeeding t calls) = some document ∧
      (writeEach t calls).read call.1 = .ok document
  /-- Nothing is inside of a file. -/
  apart : ∀ place q, (writeEach t calls).fileAt? place ≠ none →
    (writeEach t calls).at? q ≠ none → place <+: q → place = q
  /-- No path leads to a file and to a folder, nor does a path to a folder lead on from a file. -/
  one_kind : ∀ p p', (writeEach t calls).isFile p = true →
    (writeEach t calls).isFolder p' = true → ¬ t.placeOf p <+: t.placeOf p'

/-- Whatever documents are written one after the other into an empty folder, whether they can be
written or not: no call changes any file but its own, and in the end the files are what the calls
that succeeded have written, each of them as the last one at its place has. -/
theorem sequence_writeEach (working : Place) (calls : List Call) :
    Sequence (Tree.bare working) calls := by
  have whole : (Tree.bare working : Tree Document).Whole := Tree.whole_bare working
  refine ⟨?_, ?_, ?_, ?_, ?_⟩
  · intro before call after _
    exact effect_writeDocument (whole_writeEach whole before) call.1 call.2
  · intro place
    rw [fileAt?_writeEach, Tree.fileAt?_bare, Option.or_none]
  · exact fun call h => read_writeEach h
  · intro place q file there inside
    exact (whole_writeEach whole calls).eq_of_file file there inside
  · intro p p' file folder
    have same := (writeEach_sameUpTo (.bare working) calls).placeOf
    rw [← same p, ← same p']
    exact (whole_writeEach whole calls).not_inside_of_isFile file folder

/-- A file is in the way of the second call and a folder of the fourth, and the last one replaces
what the first has written. -/
example : (succeeding (Tree.bare []) [("a", .text "1"), ("a/b", .text "2"), ("c/d", .text "3"),
    ("c", .text "4"), ("./a", .text "5")]).map (·.1) = ["a", "c/d", "./a"] := by decide +kernel

end Speedup.Files
