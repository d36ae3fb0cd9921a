import Speedup.Files.Tree

/-!
# Where paths lead

The segments of a path decide alone where it leads to (`settle`): a tree may refuse to be followed,
but if it does not, the path leads to the same place in every tree with the same working folder
(`walk_eq_ok`). So a path has a place (`Tree.placeOf`) before anything is there, and this is what
makes it possible to say of two paths, however they are written, whether they name one file.

A path put together from a folder and further segments leads on from the place of the folder
(`placeOf_below`), if none of these segments begins with a slash. Names, which are neither idle nor
a double dot and hold no slash, are simply appended.
-/

namespace Speedup

namespace Text

variable {separator : Char}

theorem splitAt_ne_nil (cs : List Char) : splitAt separator cs ≠ [] := by
  cases cs with
  | nil => simp [splitAt]
  | cons c rest =>
      unfold splitAt
      split
      · simp
      · split <;> simp

theorem splitAt_append (xs ys : List Char) :
    splitAt separator (xs ++ separator :: ys) = splitAt separator xs ++ splitAt separator ys := by
  induction xs with
  | nil => simp [splitAt]
  | cons c rest ih =>
      by_cases h : c = separator
      · simp [splitAt, h, ih]
      · have some_run : splitAt separator rest ≠ [] := splitAt_ne_nil rest
        obtain ⟨run, runs, hr⟩ := List.exists_cons_of_ne_nil some_run
        simp [splitAt, h, ih, hr]

theorem splitAt_of_not_mem {cs : List Char} (h : separator ∉ cs) : splitAt separator cs = [cs] := by
  induction cs with
  | nil => rfl
  | cons c rest ih =>
      rw [List.mem_cons, not_or] at h
      simp [splitAt, Ne.symm h.1, ih h.2]

/-- What stands in front lengthens the first run. -/
theorem splitAt_append_left {xs : List Char} (h : separator ∉ xs) {ys run : List Char}
    {runs : List (List Char)} (hy : splitAt separator ys = run :: runs) :
    splitAt separator (xs ++ ys) = (xs ++ run) :: runs := by
  induction xs with
  | nil => exact hy
  | cons c rest ih =>
      rw [List.mem_cons, not_or] at h
      simp [splitAt, Ne.symm h.1, ih h.2]

/-- What stands behind lengthens the last run. -/
theorem splitAt_append_right {ys : List Char} (h : separator ∉ ys) (xs : List Char) :
    ∃ runs run, splitAt separator xs = runs ++ [run] ∧
      splitAt separator (xs ++ ys) = runs ++ [run ++ ys] := by
  induction xs with
  | nil => exact ⟨[], [], rfl, splitAt_of_not_mem h⟩
  | cons c rest ih =>
      obtain ⟨runs, run, hr, hs⟩ := ih
      by_cases hc : c = separator
      · exact ⟨[] :: runs, run, by simp [splitAt, hc, hr], by simp [splitAt, hc, hs]⟩
      · cases runs with
        | nil => exact ⟨[], c :: run, by simp [splitAt, hc, hr], by simp [splitAt, hc, hs]⟩
        | cons first others =>
            refine ⟨(c :: first) :: others, run, ?_, ?_⟩
            · simp [splitAt, hc, hr]
            · simp [splitAt, hc, hs]

end Text

namespace Path

/-! ## Segments -/

theorem segments_ne_nil (p : Path) : segments p ≠ [] := by
  simp [segments, Text.splitAt_ne_nil]

theorem segments_append_slash (p q : Path) :
    segments (p ++ "/" ++ q) = segments p ++ segments q := by
  unfold segments
  rw [← List.map_append, ← Text.splitAt_append]
  simp

@[simp] theorem segments_empty : segments "" = [""] := rfl

theorem segments_slash (p : Path) : segments (p ++ "/") = segments p ++ [""] := by
  have split := segments_append_slash p ""
  rwa [String.append_empty] at split

theorem segments_of_no_slash {p : Path} (h : '/' ∉ p.toList) : segments p = [p] := by
  simp [segments, Text.splitAt_of_not_mem h]

theorem flatMap_segments_of_no_slash {ps : List Path} (h : ∀ p ∈ ps, '/' ∉ p.toList) :
    ps.flatMap segments = ps := by
  induction ps with
  | nil => rfl
  | cons p rest ih =>
      rw [List.flatMap_cons, segments_of_no_slash (h p List.mem_cons_self),
        ih fun q hq => h q (List.mem_cons_of_mem _ hq)]
      rfl

theorem segments_append_left {p first : Path} {rest : List String} {front : String}
    (h : '/' ∉ front.toList) (hp : segments p = first :: rest) :
    segments (front ++ p) = (front ++ first) :: rest := by
  unfold segments at *
  obtain ⟨run, runs, hr, rfl, rfl⟩ := List.map_eq_cons_iff.mp hp
  rw [String.toList_append, Text.splitAt_append_left h hr]
  simp

theorem segments_append_right {back : String} (h : '/' ∉ back.toList) (p : Path) :
    ∃ front last, segments p = front ++ [last] ∧
      segments (p ++ back) = front ++ [last ++ back] := by
  obtain ⟨runs, run, hr, hs⟩ := Text.splitAt_append_right h p.toList
  refine ⟨runs.map String.ofList, String.ofList run, ?_, ?_⟩
  · simp [segments, hr]
  · simp [segments, hs]

theorem isAbsolute_of_no_slash {p : Path} (h : '/' ∉ p.toList) : isAbsolute p = false := by
  unfold isAbsolute
  cases hp : p.toList with
  | nil => rfl
  | cons c cs =>
      rw [hp, List.mem_cons, not_or] at h
      simpa using Ne.symm h.1

/-! ## Joined paths -/

theorem isAbsolute_append {p : Path} (h : p ≠ "") (q : Path) :
    isAbsolute (p ++ q) = isAbsolute p := by
  obtain ⟨c, cs, hp⟩ : ∃ c cs, p.toList = c :: cs :=
    List.exists_cons_of_ne_nil (by simpa using h)
  simp [isAbsolute, hp]

/-- The three ways to join a path to a folder. -/
theorem join_cases {rest : Path} (relative : isAbsolute rest = false) (base : Path) :
    (base = "" ∧ join base rest = rest) ∨
    (∃ front, base = front ++ "/" ∧ join base rest = front ++ "/" ++ rest) ∨
    (base ≠ "" ∧ join base rest = base ++ "/" ++ rest) := by
  by_cases none_there : base = ""
  · refine .inl ⟨none_there, ?_⟩
    simp [join, relative, none_there]
  · by_cases slash : base.toList.getLast? = some '/'
    · obtain ⟨front, split⟩ := List.getLast?_eq_some_iff.mp slash
      have whole : base = String.ofList front ++ "/" := by
        rw [← String.toList_inj]
        simpa using split
      refine .inr (.inl ⟨String.ofList front, whole, ?_⟩)
      rw [← whole]
      simp [join, relative, slash]
    · refine .inr (.inr ⟨none_there, ?_⟩)
      simp [join, relative, slash, none_there]

structure IsName (name : String) : Prop where
  busy : isIdle name = false
  proper : name ≠ ".."
  single : '/' ∉ name.toList

instance (name : String) : Decidable (IsName name) :=
  decidable_of_iff (isIdle name = false ∧ name ≠ ".." ∧ '/' ∉ name.toList)
    ⟨fun h => ⟨h.1, h.2.1, h.2.2⟩, fun h => ⟨h.busy, h.proper, h.single⟩⟩

end Path

namespace Files

open Speedup.Path

variable {α : Type} {t : Tree α} {place q : Place} {p : Path}

theorem bind_eq_ok_iff {ε β γ : Type} {x : Except ε β} {f : β → Except ε γ} {c : γ} :
    x >>= f = .ok c ↔ ∃ b, x = .ok b ∧ f b = .ok c := by
  cases x <;> simp [bind, Except.bind]

/-! ## Places of segments -/

def settleStep (place : Place) (segment : String) : Place :=
  if isIdle segment then place
  else if segment = ".." then place.dropLast
  else place ++ [segment]

def settle (place : Place) (segments : List String) : Place := segments.foldl settleStep place

@[simp] theorem settle_nil (place : Place) : settle place [] = place := rfl

@[simp] theorem settle_cons (place : Place) (segment : String) (rest : List String) :
    settle place (segment :: rest) = settle (settleStep place segment) rest := rfl

@[simp] theorem settle_append (place : Place) (front back : List String) :
    settle place (front ++ back) = settle (settle place front) back := List.foldl_append

theorem settleStep_idle {segment : String} (h : isIdle segment = true) :
    settleStep place segment = place := by
  simp [settleStep, h]

theorem settleStep_name {name : String} (h : isIdle name = false) (proper : name ≠ "..") :
    settleStep place name = place ++ [name] := by
  simp [settleStep, h, proper]

/-- Names lead on one after the other. -/
theorem settle_names {names : List String} (h : ∀ name ∈ names, IsName name) :
    settle place names = place ++ names := by
  induction names generalizing place with
  | nil => simp
  | cons name rest ih =>
      have this := h name List.mem_cons_self
      rw [settle_cons, settleStep_name this.busy this.proper,
        ih fun n hn => h n (List.mem_cons_of_mem _ hn)]
      simp

/-- Without a double dot nothing leads out of a folder. -/
theorem prefix_settle {segments : List String} (h : ".." ∉ segments) :
    place <+: settle place segments := by
  induction segments generalizing place with
  | nil => exact List.prefix_rfl
  | cons segment rest ih =>
      rw [List.mem_cons, not_or] at h
      refine List.IsPrefix.trans ?_ (ih h.2)
      unfold settleStep
      rw [if_neg (Ne.symm h.1)]
      split
      · exact List.prefix_rfl
      · exact List.prefix_append _ _

/-! ## Places of paths -/

namespace Tree

/-- The place of a path, whatever is there. -/
def placeOf (t : Tree α) (p : Path) : Place := settle (t.origin p) p.segments

theorem requireFolder_eq_ok_iff {u : Unit} :
    t.requireFolder place = .ok u ↔ t.at? place = some .folder := by
  unfold requireFolder
  split <;> simp_all

/-- Whether a segment may be followed inside of a folder. -/
def Fits (segment : String) : Prop :=
  isIdle segment = true ∨ segment = ".." ∨ segment.utf8ByteSize ≤ maxNameLength

theorem follow_eq_ok_iff {segment : String} : t.follow place segment = .ok q ↔
    t.at? place = some .folder ∧ Fits segment ∧ settleStep place segment = q := by
  unfold follow
  rw [bind_eq_ok_iff]
  simp only [requireFolder_eq_ok_iff, exists_const]
  refine and_congr_right fun _ => ?_
  unfold Fits settleStep enter
  by_cases idle : isIdle segment = true
  · simp [idle, pure, Except.pure]
  · by_cases up : segment = ".."
    · simp [up, isIdle, pure, Except.pure]
    · by_cases long : maxNameLength < segment.utf8ByteSize
      · simp [idle, up, long, Nat.not_le_of_lt long]
      · simp [idle, up, long, Nat.le_of_not_lt long]

theorem walk_cons_eq_ok_iff {segment : String} {rest : List String} :
    t.walk place (segment :: rest) = .ok q ↔
      ∃ next, t.follow place segment = .ok next ∧ t.walk next rest = .ok q :=
  bind_eq_ok_iff

theorem walk_eq_ok {segments : List String} (h : t.walk place segments = .ok q) :
    settle place segments = q := by
  induction segments generalizing place with
  | nil =>
      cases h
      rfl
  | cons segment rest ih =>
      obtain ⟨next, hs, hr⟩ := walk_cons_eq_ok_iff.mp h
      rw [settle_cons, (follow_eq_ok_iff.mp hs).2.2]
      exact ih hr

theorem origin_join (relative : isAbsolute p = false) (base : Path) :
    t.origin (join base p) = t.origin base := by
  unfold origin
  obtain ⟨rfl, joined⟩ | ⟨front, rfl, joined⟩ | ⟨some_char, joined⟩ := join_cases relative base
  · rw [joined, relative]
    rfl
  · rw [joined, isAbsolute_append (by simp)]
  · rw [joined, String.append_assoc, isAbsolute_append some_char]

theorem placeOf_join (relative : isAbsolute p = false) (base : Path) :
    t.placeOf (join base p) = settle (t.placeOf base) p.segments := by
  unfold placeOf
  rw [origin_join relative]
  obtain ⟨rfl, joined⟩ | ⟨front, rfl, joined⟩ | ⟨some_char, joined⟩ := join_cases relative base
  · rw [joined, segments_empty]
    rfl
  · rw [joined, segments_append_slash, segments_slash, settle_append, settle_append]
    rfl
  · rw [joined, segments_append_slash, settle_append]

/-- Paths below a folder lead on from its place. -/
theorem placeOf_below {within : List Path} (relative : ∀ p ∈ within, isAbsolute p = false)
    (root : Path) :
    t.placeOf (below root within) = settle (t.placeOf root) (within.flatMap segments) := by
  induction within generalizing root with
  | nil => rfl
  | cons p rest ih =>
      rw [below, List.foldl_cons, List.flatMap_cons, settle_append,
        ← placeOf_join (relative p List.mem_cons_self)]
      exact ih (fun q hq => relative q (List.mem_cons_of_mem _ hq)) _

/-- Single segments below a folder lead on from its place. -/
theorem placeOf_below_singles {within : List Path} (single : ∀ p ∈ within, '/' ∉ p.toList)
    (root : Path) : t.placeOf (below root within) = settle (t.placeOf root) within := by
  rw [placeOf_below fun p hp => isAbsolute_of_no_slash (single p hp),
    flatMap_segments_of_no_slash single]

end Tree

end Files

end Speedup
