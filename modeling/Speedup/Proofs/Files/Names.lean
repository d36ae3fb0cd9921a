import Speedup.Proofs.Files.Writing

/-!
# Paths of names

A relative path that is put together from names comes apart into the same names, leads on from the
working folder by them, and its outer path is that of the names before the last one. It can be
looked up if it is not too long as a whole (`Writable`).
-/

namespace Speedup

open Files

namespace Path

variable {names more : List String} {name : String}

/-- The last of the segments that a path is put together from is seen in it. -/
theorem mem_segments_below (single : '/' ∉ name.toList) (base : Path) (within : List Path) :
    name ∈ (below base (within ++ [name])).segments := by
  have whole : below base (within ++ [name]) = join (below base within) name := List.foldl_concat ..
  have alone := segments_of_no_slash single
  rw [whole]
  obtain ⟨_, joined⟩ | ⟨front, _, joined⟩ | ⟨_, joined⟩ :=
    join_cases (isAbsolute_of_no_slash single) (below base within)
  · rw [joined, alone]
    exact List.mem_singleton_self name
  · rw [joined, segments_append_slash, alone]
    exact List.mem_append_right _ (List.mem_singleton_self name)
  · rw [joined, segments_append_slash, alone]
    exact List.mem_append_right _ (List.mem_singleton_self name)

def ofNames (names : List String) : Path := (Parts.mk .none names).path

theorem ofNames_cons (h : more ≠ []) : ofNames (name :: more) = name ++ "/" ++ ofNames more :=
  String.intercalate_cons_of_ne_nil h

theorem segments_intercalate (single : ∀ name ∈ names, '/' ∉ name.toList)
    (some_name : names ≠ []) : segments (String.intercalate "/" names) = names := by
  induction names with
  | nil => exact absurd rfl some_name
  | cons name rest ih =>
      rw [List.forall_mem_cons] at single
      by_cases last : rest = []
      · subst last
        rw [String.intercalate_singleton]
        exact segments_of_no_slash single.1
      · rw [String.intercalate_cons_of_ne_nil last, segments_append_slash,
          segments_of_no_slash single.1, ih single.2 last]
        rfl

theorem segments_ofNames (named : ∀ name ∈ names, IsName name) (some_name : names ≠ []) :
    segments (ofNames names) = names :=
  segments_intercalate (fun name hn => (named name hn).single) some_name

theorem ofNames_ne_empty (named : ∀ name ∈ names, IsName name) (some_name : names ≠ []) :
    ofNames names ≠ "" := by
  intro nothing
  have segments := segments_ofNames named some_name
  rw [nothing, segments_empty] at segments
  have idle := (named "" (segments ▸ List.mem_cons_self)).busy
  exact absurd idle (by decide)

theorem isAbsolute_ofNames (named : ∀ name ∈ names, IsName name) :
    isAbsolute (ofNames names) = false := by
  cases names with
  | nil => rfl
  | cons name rest =>
      have first := named name List.mem_cons_self
      have some_char : name ≠ "" := by
        rintro rfl
        exact absurd first.busy (by decide)
      by_cases last : rest = []
      · subst last
        exact isAbsolute_of_no_slash first.single
      · rw [ofNames_cons last, String.append_assoc, isAbsolute_append some_char,
          isAbsolute_of_no_slash first.single]

theorem dropIdle_names (named : ∀ name ∈ names, IsName name) : dropIdle names = names := by
  obtain rfl | ⟨front, last, rfl⟩ := List.eq_nil_or_concat names
  · rfl
  · have busy : isIdle last = false := (named last (by simp)).busy
    simp [dropIdle, busy]

theorem parts_ofNames (named : ∀ name ∈ names, IsName name) :
    parts (ofNames names) = ⟨.none, names⟩ := by
  cases names with
  | nil => rfl
  | cons name rest =>
      have busy := (named name List.mem_cons_self).busy
      unfold parts
      rw [segments_ofNames named nofun]
      split
      next h =>
        rw [(List.cons.inj h).1] at busy
        exact absurd busy (by decide)
      next h =>
        rw [(List.cons.inj h).1] at busy
        exact absurd busy (by decide)
      · rw [dropIdle_names named]

theorem Parts.parent?_names (named : ∀ name ∈ names, IsName name) (name : String) :
    (Parts.mk .none (names ++ [name])).parent? = some ⟨.none, names⟩ := by
  simp [Parts.parent?, dropIdle_names named]

theorem parent?_ofNames (named : ∀ n ∈ names ++ [name], IsName n) :
    (ofNames (names ++ [name])).parent? = some (ofNames names) := by
  rw [parent?, parts_ofNames named,
    Parts.parent?_names fun n hn => named n (List.mem_append_left _ hn)]
  rfl

theorem ofNames_append (some_name : names ≠ []) (h : more ≠ []) :
    ofNames (names ++ more) = ofNames names ++ "/" ++ ofNames more :=
  String.intercalate_append_of_ne_nil some_name h

theorem join_ofNames (named : ∀ name ∈ names, IsName name) (relative : isAbsolute name = false) :
    join (ofNames names) name = ofNames (names ++ [name]) := by
  by_cases first : names = []
  · subst first
    simp [join, relative, ofNames, Parts.path]
  · rw [ofNames_append first (List.cons_ne_nil _ _)]
    obtain ⟨nothing, _⟩ | ⟨front, slash, _⟩ | ⟨_, joined⟩ := join_cases relative (ofNames names)
    · exact absurd nothing (ofNames_ne_empty named first)
    · have segments := segments_ofNames named first
      rw [slash, segments_slash] at segments
      have idle := (named "" (segments ▸ List.mem_append_right _ List.mem_cons_self)).busy
      exact absurd idle (by decide)
    · exact joined

theorem below_ofNames (named : ∀ name ∈ names ++ more, IsName name) :
    below (ofNames names) more = ofNames (names ++ more) := by
  induction more generalizing names with
  | nil => rw [List.append_nil]; rfl
  | cons name rest ih =>
      have first : join (ofNames names) name = ofNames (names ++ [name]) :=
        join_ofNames (fun n hn => named n (List.mem_append_left _ hn))
          (isAbsolute_of_no_slash (named name (by simp)).single)
      have all : ∀ n ∈ (names ++ [name]) ++ rest, IsName n := by simpa using named
      show below (join (ofNames names) name) rest = _
      rw [first, ih all, List.append_assoc]
      rfl

theorem below_ofNames_empty (some_name : names ≠ [])
    (named : ∀ n ∈ names ++ name :: more, IsName n) :
    below (ofNames names) ("" :: name :: more) = ofNames (names ++ name :: more) := by
  have before : ∀ n ∈ names, IsName n := fun n hn => named n (List.mem_append_left _ hn)
  have relative := isAbsolute_of_no_slash (named name (by simp)).single
  have slash : join (ofNames names) "" = ofNames names ++ "/" := by
    rw [join_ofNames before rfl, ofNames_append some_name (List.cons_ne_nil _ _)]
    exact String.append_empty
  have first : join (join (ofNames names) "") name = ofNames (names ++ [name]) := by
    rw [slash, ofNames_append some_name (List.cons_ne_nil _ _)]
    simp [join, relative, ofNames, Parts.path]
  have all : ∀ n ∈ (names ++ [name]) ++ more, IsName n := by simpa using named
  show below (join (join (ofNames names) "") name) more = _
  rw [first, below_ofNames all, List.append_assoc]
  rfl

theorem size_ofNames_append (names more : List String) {most : Nat}
    (fits : ∀ name ∈ more, name.utf8ByteSize ≤ most) :
    (ofNames (names ++ more)).utf8ByteSize ≤
      (ofNames names).utf8ByteSize + more.length * (most + 1) := by
  induction more generalizing names with
  | nil => simp
  | cons name rest ih =>
      have here := fits name List.mem_cons_self
      have later := ih (names ++ [name]) fun n hn => fits n (List.mem_cons_of_mem _ hn)
      have one : (ofNames (names ++ [name])).utf8ByteSize ≤
          (ofNames names).utf8ByteSize + (most + 1) := by
        by_cases first : names = []
        · subst first
          have alone : ofNames ([] ++ [name]) = name := rfl
          rw [alone]
          omega
        · have alone : ofNames [name] = name := rfl
          have slash : "/".utf8ByteSize = 1 := rfl
          rw [ofNames_append first (List.cons_ne_nil _ _), alone, String.utf8ByteSize_append,
            String.utf8ByteSize_append]
          omega
      rw [List.append_assoc, List.singleton_append] at later
      rw [List.length_cons, Nat.succ_mul]
      omega

/-- Names of which a path can be made that is not too long to be followed. -/
structure Writable (names : List String) : Prop where
  named : ∀ name ∈ names, IsName name
  fits : ∀ name ∈ names, name.utf8ByteSize ≤ Tree.maxNameLength
  no_zero : ∀ name ∈ names, '\x00' ∉ name.toList
  length : (ofNames names).utf8ByteSize ≤ Tree.maxPathLength

theorem Writable.front (h : Writable (names ++ more)) : Writable names where
  named := fun n hn => h.named n (List.mem_append_left _ hn)
  fits := fun n hn => h.fits n (List.mem_append_left _ hn)
  no_zero := fun n hn => h.no_zero n (List.mem_append_left _ hn)
  length := by
    have length := h.length
    by_cases first : names = []
    · subst first
      exact Nat.zero_le _
    · by_cases last : more = []
      · rwa [last, List.append_nil] at length
      · rw [ofNames_append first last, String.utf8ByteSize_append,
          String.utf8ByteSize_append] at length
        omega

theorem Writable.check (h : Writable names) (some_name : names ≠ []) :
    Tree.check (ofNames names) = .ok () := by
  have no_zero : '\x00' ∉ (ofNames names).toList := by
    have parts : ∀ names : List String, (∀ name ∈ names, '\x00' ∉ name.toList) →
        '\x00' ∉ (ofNames names).toList := by
      intro names free
      induction names with
      | nil => decide
      | cons name rest ih =>
          by_cases last : rest = []
          · subst last
            exact free name List.mem_cons_self
          · rw [ofNames_cons last]
            simp [free name, ih fun n hn => free n (List.mem_cons_of_mem _ hn)]
    exact parts names h.no_zero
  unfold Tree.check
  rw [if_neg (by simpa using no_zero), if_neg (by simpa using ofNames_ne_empty h.named some_name),
    if_neg (Nat.not_lt_of_le h.length)]

end Path

end Speedup
