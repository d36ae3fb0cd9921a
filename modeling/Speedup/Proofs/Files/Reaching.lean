import Speedup.Proofs.Files.Parts

/-!
# Reaching folders

What is done with a path is done in the folder that is reached by its segments before the last one
(`Tree.reach`). Idle segments do not count for this, so what a path leads to is told by its parts.
Folders with all that lead to them are made from the nearest one outwards, and where one of them can
be reached nothing is made (`makeFirst_of_reach`).
-/

namespace Speedup.Files

open Speedup.Path

namespace Tree

variable {α : Type} {t : Tree α} {place q : Place} {way front : List String} {name : String}

/-! ## Folders that are reached -/

def reach (t : Tree α) (place : Place) (way : List String) : Except Problem Place := do
  let folder ← t.walk place way
  t.requireFolder folder
  return folder

theorem requireFolder_folder (here : t.at? place = some .folder) :
    t.requireFolder place = .ok () := by
  simp [requireFolder, here]

theorem reach_nil (t : Tree α) (place : Place) :
    t.reach place [] = (do t.requireFolder place; return place) := rfl

theorem reach_cons (t : Tree α) (place : Place) (segment : String) (rest : List String) :
    t.reach place (segment :: rest) = (do
      let next ← t.follow place segment
      t.reach next rest) := by
  show ((t.follow place segment >>= fun next => t.walk next rest) >>= _) = _
  rw [bind_assoc]
  rfl

theorem reach_eq_ok_iff :
    t.reach place way = .ok q ↔ t.walk place way = .ok q ∧ t.at? q = some .folder := by
  unfold reach
  simp only [bind_eq_ok_iff, requireFolder_eq_ok_iff]
  constructor
  · rintro ⟨folder, walked, _, here, same⟩
    cases same
    exact ⟨walked, here⟩
  · rintro ⟨walked, here⟩
    exact ⟨q, walked, (), here, rfl⟩

theorem reach_single_iff : t.reach place [name] = .ok q ↔
    t.at? place = some .folder ∧ Fits name ∧ settleStep place name = q ∧
      t.at? q = some .folder := by
  have single : t.walk place [name] = .ok q ↔ t.follow place name = .ok q := by
    rw [walk_cons_eq_ok_iff]
    constructor
    · rintro ⟨next, followed, same⟩
      cases same
      exact followed
    · exact fun followed => ⟨q, followed, rfl⟩
  rw [reach_eq_ok_iff, single, follow_eq_ok_iff]
  simp only [and_assoc]

theorem reach_append (t : Tree α) (place : Place) (front back : List String) :
    t.reach place (front ++ back) = (do
      let folder ← t.reach place front
      t.reach folder back) := by
  induction front generalizing place with
  | nil =>
      rw [List.nil_append, reach_nil, bind_assoc]
      cases here : t.requireFolder place with
      | ok u => rfl
      | error problem =>
          cases back with
          | nil => rw [reach_nil, here]; rfl
          | cons segment rest =>
              rw [reach_cons, follow, here]
              rfl
  | cons segment rest ih =>
      simp only [List.cons_append, reach_cons, ih, bind_assoc]

theorem reach_idle (idle : ∀ s ∈ way, isIdle s = true) (here : t.at? place = some .folder) :
    t.reach place way = .ok place := by
  induction way with
  | nil => rw [reach_nil, requireFolder_folder here]; rfl
  | cons segment rest ih =>
      rw [List.forall_mem_cons] at idle
      have stays : t.follow place segment = .ok place :=
        follow_eq_ok_iff.mpr ⟨here, .inl idle.1, settleStep_idle idle.1⟩
      rw [reach_cons, stays]
      exact ih idle.2

def start (t : Tree α) (head : Head) : Place := if head = .root then [] else t.working

theorem origin_eq (t : Tree α) (p : Path) : t.origin p = t.start (parts p).head := by
  unfold origin start
  by_cases absolute : isAbsolute p = true
  · rw [if_pos absolute, if_pos (head_parts_eq_root_iff.mpr absolute)]
  · rw [if_neg absolute, if_neg (mt head_parts_eq_root_iff.mp absolute)]

theorem folder_start (here : t.at? t.working = some .folder) (head : Head) :
    t.at? (t.start head) = some .folder := by
  unfold start
  split
  · rfl
  · exact here

theorem reach_lead (here : t.at? t.working = some .folder) (head : Head)
    (way : List String) :
    t.reach (t.start head) (head.lead ++ way) = t.reach (t.start head) way := by
  have idle : ∀ s ∈ head.lead, isIdle s = true := by cases head <;> decide
  rw [reach_append, reach_idle idle (folder_start here head)]
  rfl

/-- The folder of a path is that of its body. -/
theorem reach_body (here : t.at? t.working = some .folder) (p : Path) :
    t.reach (t.origin p) (segments p) = .ok q ↔
      t.reach (t.start (parts p).head) (parts p).body = .ok q := by
  obtain ⟨idle, all, whole⟩ := segments_eq p
  rw [whole, origin_eq, List.append_assoc, reach_lead here, reach_append, bind_eq_ok_iff]
  constructor
  · rintro ⟨folder, reached, stays⟩
    rw [reach_idle all (reach_eq_ok_iff.mp reached).2] at stays
    cases stays
    exact reached
  · exact fun reached => ⟨q, reached, reach_idle all (reach_eq_ok_iff.mp reached).2⟩

theorem isFolder_iff (here : t.at? t.working = some .folder) (p : Path) :
    t.isFolder p = true ↔ check p = .ok () ∧
      ∃ q, t.reach (t.start (parts p).head) (parts p).body = .ok q := by
  simp only [isFolder_iff_find, find_eq_ok_iff, ← reach_body here, reach_eq_ok_iff]

/-! ## Operations on a path -/

theorem target?_eq {p : Path} (here : t.at? t.working = some .folder) {outer : List String}
    (whole : segments p = (parts p).head.lead ++ (outer ++ [name])) (busy : isIdle name = false) :
    t.target? p = (do
      check p
      let folder ← t.reach (t.start (parts p).head) outer
      return some ⟨folder, name, false⟩) := by
  have some_char : (name == "") = false := by
    simp only [isIdle, Bool.or_eq_false_iff] at busy
    exact busy.1
  have reversed : (segments p).reverse = name :: ((parts p).head.lead ++ outer).reverse := by
    rw [whole, ← List.append_assoc, List.reverse_append]
    rfl
  have dropped : (segments p).reverse.dropWhile (· == "") =
      name :: ((parts p).head.lead ++ outer).reverse := by
    rw [reversed, List.dropWhile_cons_of_neg (by simp [some_char])]
  have slash : ((segments p).reverse.head? == some "") = false := by
    rw [reversed]
    exact some_char
  unfold target?
  refine congrArg (check p >>= ·) (funext fun _ => ?_)
  dsimp only
  rw [dropped, slash, ← reach_lead here, ← origin_eq]
  simp only [List.reverse_reverse, reach, bind_assoc, pure_bind]

def makeIn (t : Tree α) (folder : Place) (name : String) : Except Problem (Tree α) := do
  if name = ".." then .error .exists
  else
    let place ← enter folder name
    if (t.at? place).isSome then .error .exists else return t.put place .folder

theorem makeFolder_eq {p : Path} (here : t.at? t.working = some .folder) {outer : List String}
    (whole : segments p = (parts p).head.lead ++ (outer ++ [name])) (busy : isIdle name = false) :
    t.makeFolder p = (do
      check p
      let folder ← t.reach (t.start (parts p).head) outer
      t.makeIn folder name) := by
  unfold makeFolder makeIn
  rw [target?_eq here whole busy]
  simp only [bind_assoc, pure_bind, busy, Bool.false_or, beq_iff_eq]

theorem writeFile_eq {p : Path} (here : t.at? t.working = some .folder) {outer : List String}
    (whole : segments p = (parts p).head.lead ++ (outer ++ [name])) (busy : isIdle name = false)
    (content : α) :
    t.writeFile p content = (do
      check p
      let folder ← t.reach (t.start (parts p).head) outer
      if name = ".." then .error .isFolder
      else
        let place ← enter folder name
        match t.at? place with
        | some .folder => .error .isFolder
        | _ => return t.put place (.file content)) := by
  unfold writeFile
  rw [target?_eq here whole busy]
  simp only [bind_assoc, pure_bind]
  refine congrArg (check p >>= ·) (funext fun _ => ?_)
  refine congrArg (t.reach _ outer >>= ·) (funext fun folder => ?_)
  exact if_congr (by simp [busy]) rfl rfl

/-! ## Making one folder -/

theorem short_of_fits (fits : Fits name) (busy : isIdle name = false) (up : name ≠ "..") :
    name.utf8ByteSize ≤ maxNameLength := by
  obtain idle | up' | short := fits
  · simp [busy] at idle
  · exact absurd up' up
  · exact short

theorem enter_of_short (short : name.utf8ByteSize ≤ maxNameLength) :
    enter place name = .ok (place ++ [name]) := by
  rw [enter, if_neg (Nat.not_lt_of_le short)]

theorem makeIn_eq_ok_iff {made : Tree α} : t.makeIn place name = .ok made ↔ name ≠ ".." ∧
    name.utf8ByteSize ≤ maxNameLength ∧ t.at? (place ++ [name]) = none ∧
      made = t.put (place ++ [name]) .folder := by
  unfold makeIn
  constructor
  · intro h
    split at h
    · cases h
    next up =>
      obtain ⟨inner, entered, h⟩ := bind_eq_ok_iff.mp h
      obtain ⟨rfl, short⟩ := enter_eq_ok entered
      split at h
      · cases h
      next free =>
        cases h
        exact ⟨up, short, by simpa using free, rfl⟩
  · rintro ⟨up, short, free, rfl⟩
    rw [if_neg up, enter_of_short short]
    show (if (t.at? (place ++ [name])).isSome then _ else _) = _
    rw [free]
    rfl

/-- In a folder that is there no folder is missing. -/
theorem makeIn_ne_missing : t.makeIn place name ≠ .error .notFound := by
  unfold makeIn enter
  split
  · simp
  · split
    · simp [bind, Except.bind]
    · show (if (t.at? (place ++ [name])).isSome then _ else _) ≠ _
      split <;> simp [pure, Except.pure]

theorem makeIn_of_reach (there : t.reach place [name] = .ok q) (busy : isIdle name = false) :
    t.makeIn place name = .error .exists := by
  obtain ⟨_, fits, leads, inside⟩ := reach_single_iff.mp there
  unfold makeIn
  split
  · rfl
  next up =>
    rw [settleStep_name busy up] at leads
    rw [enter_of_short (short_of_fits fits busy up)]
    show (if (t.at? (place ++ [name])).isSome then _ else _) = _
    rw [leads, inside]
    rfl

/-- A folder that is made can be reached. -/
theorem reach_put_folder {folder : Place} (reached : t.reach place front = .ok folder)
    (short : name.utf8ByteSize ≤ maxNameLength)
    (leads : settleStep folder name = folder ++ [name])
    (free : t.at? (folder ++ [name]) = none) :
    (t.put (folder ++ [name]) .folder).reach place (front ++ [name]) = .ok (folder ++ [name]) := by
  have grown : SameUpTo [] t (t.put (folder ++ [name]) .folder) := .put_folder free
  obtain ⟨walked, inside⟩ := reach_eq_ok_iff.mp reached
  have kept : (t.put (folder ++ [name]) .folder).reach place front = .ok folder :=
    reach_eq_ok_iff.mpr ⟨grown.walk walked, grown.folder _ inside⟩
  rw [reach_append, kept]
  exact reach_single_iff.mpr
    ⟨grown.folder _ inside, .inr (.inr short), leads, at?_put_self (by simp) _⟩

section OneFolder

variable {parts : Parts} {folder : Place} (here : t.at? t.working = some .folder)
  (proper : parts.Proper) (body : parts.body = front ++ [name])

include here proper body

theorem isFolder_inside (reached : t.reach (t.start parts.head) front = .ok folder) :
    t.isFolder parts.path = true ↔
      check parts.path = .ok () ∧ ∃ q, t.reach folder [name] = .ok q := by
  rw [isFolder_iff here, proper.parts_path, body, reach_append, reached]
  rfl

theorem makeFolder_path (checked : check parts.path = .ok ()) : t.makeFolder parts.path = (do
    let folder ← t.reach (t.start parts.head) front
    t.makeIn folder name) := by
  have whole := proper.segments_path (by simp [body])
  rw [body] at whole
  rw [makeFolder_eq here (by rw [proper.parts_path]; exact whole) (proper.busy body),
    proper.parts_path, checked]
  rfl

theorem makeFolder_of_reach (reached : t.reach (t.start parts.head) front = .ok folder)
    (checked : check parts.path = .ok ()) : t.makeFolder parts.path = t.makeIn folder name := by
  rw [makeFolder_path here proper body checked, reached]
  rfl

theorem makeFolder_of_error {problem : Problem}
    (stopped : t.reach (t.start parts.head) front = .error problem)
    (checked : check parts.path = .ok ()) : t.makeFolder parts.path = .error problem := by
  rw [makeFolder_path here proper body checked, stopped]
  rfl

/-- A folder is missing on the way to one that cannot be made because something is missing. -/
theorem reach_of_makeFolder (checked : check parts.path = .ok ())
    (missing : t.makeFolder parts.path = .error .notFound) :
    t.reach (t.start parts.head) front = .error .notFound := by
  rw [makeFolder_path here proper body checked] at missing
  cases way : t.reach (t.start parts.head) front with
  | ok folder =>
      rw [way] at missing
      exact absurd missing makeIn_ne_missing
  | error problem =>
      rw [way] at missing
      cases missing
      rfl

end OneFolder

theorem makeFolder_of_check {p : Path} {problem : Problem} (h : check p = .error problem) :
    t.makeFolder p = .error problem := by
  rw [makeFolder, target?, h]
  rfl

theorem check_of_orThere {p : Path} (done : (t.orThere p (t.makeFolder p)).problem = none) :
    check p = .ok () := by
  cases checked : check p with
  | ok u => rfl
  | error problem =>
      have failed := makeFolder_of_check (t := t) checked
      have no_folder : t.isFolder p = false := by
        rw [isFolder, find, checked]
        rfl
      simp [failed, orThere, no_folder] at done

theorem isFolder_of_orThere {p : Path} {problem : Problem}
    (done : (t.orThere p (.error problem)).problem = none) : t.isFolder p = true := by
  by_contra no_folder
  simp [orThere, no_folder] at done

/-- The way to a folder that is there, or is made, can be followed. -/
theorem exists_reach_of_orThere {parts : Parts} (here : t.at? t.working = some .folder)
    (proper : parts.Proper) (body : parts.body = front ++ [name])
    (done : (t.orThere parts.path (t.makeFolder parts.path)).problem = none) :
    ∃ folder, t.reach (t.start parts.head) front = .ok folder := by
  cases way : t.reach (t.start parts.head) front with
  | ok folder => exact ⟨folder, rfl⟩
  | error problem =>
      rw [makeFolder_of_error here proper body way (check_of_orThere done)] at done
      obtain ⟨_, q, there⟩ := (isFolder_iff here _).mp (isFolder_of_orThere done)
      rw [proper.parts_path, body, reach_append, way] at there
      cases there

/-! ## Writing one file -/

theorem writeFile_eq_ok_iff {p : Path} (here : t.at? t.working = some .folder)
    (whole : segments p = (parts p).head.lead ++ (front ++ [name])) (busy : isIdle name = false)
    {content : α} {written : Tree α} :
    t.writeFile p content = .ok written ↔ check p = .ok () ∧ name ≠ ".." ∧
      ∃ folder, t.reach (t.start (parts p).head) front = .ok folder ∧
        enter folder name = .ok (folder ++ [name]) ∧ t.at? (folder ++ [name]) ≠ some .folder ∧
        written = t.put (folder ++ [name]) (.file content) := by
  rw [writeFile_eq here whole busy]
  simp only [bind_eq_ok_iff]
  constructor
  · rintro ⟨_, checked, folder, reached, h⟩
    split at h
    · cases h
    next up =>
      obtain ⟨place, entered, h⟩ := bind_eq_ok_iff.mp h
      obtain ⟨rfl, _⟩ := enter_eq_ok entered
      split at h
      · cases h
      next free =>
        cases h
        exact ⟨checked, up, folder, reached, entered, free, rfl⟩
  · rintro ⟨checked, up, folder, reached, entered, free, rfl⟩
    refine ⟨(), checked, folder, reached, ?_⟩
    rw [if_neg up, entered]
    show (match t.at? (folder ++ [name]) with
      | some .folder => Except.error Problem.isFolder
      | _ => .ok (t.put (folder ++ [name]) (.file content))) = _
    split
    next there => exact absurd there free
    · rfl

/-! ## Making folders with all that lead to them -/

theorem makeFirst_of_missing {p : Path} {outer : List Path} (some_char : p.isEmpty = false)
    (missing : t.makeFolder p = .error .notFound) (done : (t.makeFirst outer).problem = none) :
    t.makeFirst (p :: outer) =
      (t.makeFirst outer).tree.orThere p ((t.makeFirst outer).tree.makeFolder p) := by
  rw [makeFirst, some_char, if_neg Bool.false_ne_true, missing]
  dsimp only
  rw [done, if_neg (by simp)]

theorem done_of_missing {p : Path} {outer : List Path} (some_char : p.isEmpty = false)
    (missing : t.makeFolder p = .error .notFound)
    (done : (t.makeFirst (p :: outer)).problem = none) : (t.makeFirst outer).problem = none := by
  rw [makeFirst, some_char, if_neg Bool.false_ne_true, missing] at done
  dsimp only at done
  by_contra failed
  rw [if_pos (Option.isSome_iff_ne_none.mpr failed)] at done
  exact failed done

theorem makeFirst_of_not_missing {p : Path} {outer : List Path} (some_char : p.isEmpty = false)
    (h : t.makeFolder p ≠ .error .notFound) :
    t.makeFirst (p :: outer) = t.orThere p (t.makeFolder p) := by
  rw [makeFirst, some_char, if_neg Bool.false_ne_true]
  split
  next missing => exact absurd missing h
  · rfl

/-- Nothing is to be made of a path that leads to where paths begin. -/
theorem makeFirst_nil_body {head : Head} (here : t.at? t.working = some .folder)
    (outer : List Path) : t.makeFirst ((Parts.mk head []).path :: outer) = ⟨t, none⟩ := by
  have is_folder {p : Path} (checked : check p = .ok ()) (body : (parts p).body = []) :
      t.isFolder p = true := by
    refine (isFolder_iff here p).mpr ⟨checked, t.start (parts p).head, ?_⟩
    rw [body]
    exact reach_idle nofun (folder_start here _)
  have there {p : Path} (some_char : p.isEmpty = false) (made : t.makeFolder p = .error .exists)
      (folder : t.isFolder p = true) : t.makeFirst (p :: outer) = ⟨t, none⟩ := by
    rw [makeFirst_of_not_missing some_char (by simp [made]), made]
    simp [orThere, folder]
  cases head with
  | root =>
      exact there (by decide) rfl (is_folder (by decide) (by decide))
  | here =>
      -- A dot is the name of a target in the working folder, and never made.
      have target : t.target? "." = .ok (some ⟨t.working, ".", false⟩) := by
        show (do
          t.requireFolder t.working
          return some (⟨t.working, ".", false⟩ : Target)) = _
        rw [requireFolder_folder here]
        rfl
      have made : t.makeFolder "." = .error .exists := by
        rw [makeFolder, target]
        rfl
      exact there (by decide) made (is_folder (by decide) (by decide))
  | none => rfl

theorem check_front {p rest : Path} (some_char : p ≠ "") (h : check (p ++ rest) = .ok ()) :
    check p = .ok () := by
  unfold check at *
  simp only [String.toList_append, String.utf8ByteSize_append] at h
  split at h
  · cases h
  next no_zero =>
    split at h
    · cases h
    · split at h
      · cases h
      next short =>
        have none_zero : p.toList.contains '\x00' = false := by
          simp at no_zero ⊢
          exact no_zero.1
        rw [none_zero]
        simp [some_char]
        omega

/-- The folder that leads to a path is reached where the way up to its last name is. -/
theorem exists_reach_outer (reached : t.reach place front = .ok q) :
    ∃ folder, t.reach place (dropIdle front) = .ok folder := by
  obtain ⟨idle, _, whole⟩ := exists_idle front
  rw [whole, reach_append, bind_eq_ok_iff] at reached
  obtain ⟨folder, there, _⟩ := reached
  exact ⟨folder, there⟩

theorem reach_of_outer (reached : t.reach place (dropIdle front) = .ok q) :
    t.reach place front = .ok q := by
  obtain ⟨idle, all, whole⟩ := exists_idle front
  rw [whole, reach_append, reached]
  exact reach_idle all (reach_eq_ok_iff.mp reached).2

theorem check_of_makeFolder {p : Path} (some_char : p ≠ "")
    (h : t.makeFolder p = .error .notFound) : check p = .ok () := by
  cases checked : check p with
  | ok u => rfl
  | error problem =>
      rw [makeFolder_of_check checked] at h
      cases h
      unfold check at checked
      simp only [String.isEmpty_iff, some_char, if_false] at checked
      split at checked
      · cases checked
      · split at checked <;> cases checked

theorem makeFirst_of_reach {parts : Parts} (here : t.at? t.working = some .folder)
    (proper : parts.Proper) (checked : parts.path ≠ "" → check parts.path = .ok ())
    (reached : t.reach (t.start parts.head) parts.body = .ok q) (outer : List Path) :
    t.makeFirst (parts.path :: outer) = ⟨t, none⟩ := by
  obtain nothing | ⟨front, name, body⟩ := List.eq_nil_or_concat' parts.body
  · obtain ⟨head, body⟩ := parts
    obtain rfl : body = [] := nothing
    exact makeFirst_nil_body here outer
  · have some_name : parts.body ≠ [] := by simp [body]
    have some_char := proper.path_ne_empty some_name
    have checked := checked some_char
    rw [body, reach_append, bind_eq_ok_iff] at reached
    obtain ⟨folder, reached, there⟩ := reached
    have is_folder := (isFolder_inside here proper body reached).mpr ⟨checked, q, there⟩
    have made : t.makeFolder parts.path = .error .exists := by
      rw [makeFolder_of_reach here proper body reached checked,
        makeIn_of_reach there (proper.busy body)]
    rw [makeFirst_of_not_missing (by simpa using some_char) (by simp [made]), made]
    simp [orThere, is_folder]

end Tree

end Speedup.Files
