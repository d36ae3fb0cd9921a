import Mathlib.Data.List.DropRight
import Speedup.Proofs.Files.Names

/-!
# Paths taken apart

A path has the segments of its parts, and idle ones behind them (`segments_eq`). Parts that come
from a path are `Proper`: they are found again in the path that is written from them
(`parts_path`), and so are those of the path that leads to it. Every outer path is the beginning of
the path it leads to (`exists_path_eq`).
-/

namespace Speedup

theorem Text.not_mem_of_mem_splitAt {separator : Char} {cs run : List Char}
    (h : run ∈ splitAt separator cs) : separator ∉ run := by
  induction cs generalizing run with
  | nil => simp_all [splitAt]
  | cons c rest ih =>
      unfold splitAt at h
      split at h
      · obtain rfl | later := List.mem_cons.mp h
        · exact List.not_mem_nil
        · exact ih later
      next other =>
        split at h
        next empty => exact absurd empty (splitAt_ne_nil rest)
        next first runs split =>
          rw [split] at ih
          obtain rfl | later := List.mem_cons.mp h
          · rw [List.mem_cons, not_or]
            exact ⟨Ne.symm other, ih List.mem_cons_self⟩
          · exact ih (List.mem_cons_of_mem _ later)

theorem Text.length_splitAt_le (separator : Char) (cs : List Char) :
    (splitAt separator cs).length ≤ cs.length + 1 := by
  induction cs with
  | nil => exact Nat.le_refl _
  | cons c rest ih =>
      unfold splitAt
      split
      · simpa using ih
      · split
        · simp
        next run runs split =>
          rw [split] at ih
          simp only [List.length_cons] at ih ⊢
          omega

namespace Path

variable {p : Path} {q : Parts} {front body : List String} {name : String}

theorem slash_not_mem_of_mem_segments {segment : String} (h : segment ∈ segments p) :
    '/' ∉ segment.toList := by
  obtain ⟨run, hr, rfl⟩ := List.mem_map.mp h
  rw [String.toList_ofList]
  exact Text.not_mem_of_mem_splitAt hr

/-! ## Idle segments -/

theorem exists_idle (segments : List String) :
    ∃ idle, (∀ s ∈ idle, isIdle s = true) ∧ segments = dropIdle segments ++ idle :=
  ⟨segments.rtakeWhile isIdle, fun _ => List.mem_rtakeWhile_imp,
    (List.rdropWhile_append_rtakeWhile ..).symm⟩

theorem dropIdle_dropIdle (segments : List String) :
    dropIdle (dropIdle segments) = dropIdle segments :=
  List.rdropWhile_idempotent isIdle segments

theorem front_dropIdle (segments : List String) : dropIdle segments <+: segments :=
  List.rdropWhile_prefix isIdle segments

/-- Segments without idle ones at their end are none or end in a busy one. -/
theorem exists_concat (last : dropIdle body = body) (some_name : body ≠ []) :
    ∃ front name, body = front ++ [name] ∧ isIdle name = false :=
  ⟨body.dropLast, body.getLast some_name, (List.dropLast_append_getLast some_name).symm,
    by simpa using List.rdropWhile_eq_self_iff.mp last some_name⟩

/-! ## Parts of a path -/

def Head.lead : Head → List String
  | .root => [""]
  | .here => ["."]
  | .none => []

def Head.text : Head → String
  | .root => "/"
  | .here => "./"
  | .none => ""

theorem segments_of_absolute (h : isAbsolute p = true) : ∃ body, segments p = "" :: body := by
  unfold isAbsolute at h
  obtain ⟨cs, hp⟩ : ∃ cs, p.toList = '/' :: cs := by
    cases hp : p.toList with
    | nil => simp [hp] at h
    | cons c cs => exact ⟨cs, by simpa [hp] using h⟩
  exact ⟨(Text.splitAt '/' cs).map String.ofList, by simp [segments, hp, Text.splitAt]⟩

theorem eq_empty_of_segments (relative : isAbsolute p = false) (h : segments p = "" :: body) :
    p = "" := by
  unfold isAbsolute at relative
  rw [← String.toList_eq_nil_iff]
  cases hp : p.toList with
  | nil => rfl
  | cons c cs =>
      have other : c ≠ '/' := by simpa [hp] using relative
      have some_run : Text.splitAt '/' cs ≠ [] := Text.splitAt_ne_nil cs
      obtain ⟨run, runs, split⟩ := List.exists_cons_of_ne_nil some_run
      simp [segments, hp, Text.splitAt, other, split] at h

/-- The four ways to take a path apart. -/
theorem parts_cases (p : Path) :
    (isAbsolute p = true ∧ ∃ body, segments p = "" :: body ∧ parts p = ⟨.root, dropIdle body⟩) ∨
    (p = "") ∨
    (isAbsolute p = false ∧ ∃ body, segments p = "." :: body ∧
      parts p = ⟨.here, dropIdle body⟩) ∨
    (isAbsolute p = false ∧ ∃ first body, isIdle first = false ∧ segments p = first :: body ∧
      parts p = ⟨.none, dropIdle (first :: body)⟩) := by
  cases absolute : isAbsolute p with
  | true =>
      obtain ⟨body, hs⟩ := segments_of_absolute absolute
      exact .inl ⟨rfl, body, hs, by simp [parts, hs, absolute]⟩
  | false =>
      obtain ⟨first, body, hs⟩ := List.exists_cons_of_ne_nil (segments_ne_nil p)
      by_cases nothing : first = ""
      · exact .inr (.inl (eq_empty_of_segments absolute (nothing ▸ hs)))
      · by_cases dot : first = "."
        · exact .inr (.inr (.inl ⟨rfl, body, dot ▸ hs, by simp [parts, hs, dot]⟩))
        · refine .inr (.inr (.inr ⟨rfl, first, body, by simp [isIdle, nothing, dot], hs, ?_⟩))
          unfold parts
          rw [hs]
          split <;> simp_all

/-- A path has the segments of its parts and idle ones behind them. -/
theorem segments_eq (p : Path) : ∃ idle, (∀ s ∈ idle, isIdle s = true) ∧
    segments p = (parts p).head.lead ++ (parts p).body ++ idle := by
  obtain ⟨_, body, hs, hp⟩ | rfl | ⟨_, body, hs, hp⟩ | ⟨_, first, body, _, hs, hp⟩ := parts_cases p
  · obtain ⟨idle, all, whole⟩ := exists_idle body
    exact ⟨idle, all, by rw [hs, hp, List.append_assoc, ← whole]; rfl⟩
  · exact ⟨[""], by decide, rfl⟩
  · obtain ⟨idle, all, whole⟩ := exists_idle body
    exact ⟨idle, all, by rw [hs, hp, List.append_assoc, ← whole]; rfl⟩
  · obtain ⟨idle, all, whole⟩ := exists_idle (first :: body)
    exact ⟨idle, all, by rw [hs, hp, List.append_assoc, ← whole]; rfl⟩

theorem idle_of_mem_lead {head : Head} (h : name ∈ head.lead) : isIdle name = true := by
  cases head with
  | none => cases h
  | root | here =>
      rw [List.mem_singleton.mp h]
      rfl

/-- A busy segment at the end of a path is the end of its body. -/
theorem exists_body_eq (segments_eq' : segments p = front ++ [name]) (busy : isIdle name = false) :
    ∃ outer, (parts p).body = outer ++ [name] ∧
      segments p = (parts p).head.lead ++ (outer ++ [name]) := by
  obtain ⟨idle, all, whole⟩ := segments_eq p
  obtain rfl | ⟨before, last, rfl⟩ := List.eq_nil_or_concat' idle
  · rw [List.append_nil] at whole
    obtain nothing | ⟨outer, last, body⟩ := List.eq_nil_or_concat' (parts p).body
    · rw [nothing, List.append_nil, segments_eq'] at whole
      have lead : name ∈ (parts p).head.lead := by simp [← whole]
      rw [idle_of_mem_lead lead] at busy
      cases busy
    · rw [body] at whole
      have same := segments_eq'.symm.trans (whole.trans (List.append_assoc ..).symm)
      obtain rfl := List.singleton_inj.mp (List.append_inj_right' same rfl)
      exact ⟨outer, body, whole⟩
  · -- The last of the idle segments behind the body would be the busy one.
    have same := segments_eq'.symm.trans (whole.trans (List.append_assoc ..).symm)
    obtain rfl := List.singleton_inj.mp (List.append_inj_right' same rfl)
    rw [all name (by simp)] at busy
    cases busy

theorem head_parts_eq_root_iff : (parts p).head = .root ↔ isAbsolute p = true := by
  obtain ⟨absolute, body, _, hp⟩ | rfl | ⟨relative, body, _, hp⟩ | ⟨relative, _, _, _, _, hp⟩ :=
    parts_cases p
  · simp [hp, absolute]
  · decide
  · simp [hp, relative]
  · simp [hp, relative]

theorem length_segments_le (p : Path) : (segments p).length ≤ p.length + 1 := by
  simpa [segments, String.length_toList] using Text.length_splitAt_le '/' p.toList

theorem length_body_le (p : Path) : (parts p).body.length ≤ p.length + 1 := by
  obtain ⟨idle, _, segments⟩ := segments_eq p
  have all := length_segments_le p
  rw [segments, List.length_append, List.length_append] at all
  omega

/-! ## Proper parts -/

namespace Parts

/-- Parts that a path can be taken apart into. -/
structure Proper (q : Parts) : Prop where
  single : ∀ s ∈ q.body, '/' ∉ s.toList
  last : dropIdle q.body = q.body
  first : q.head = .none → ∀ s ∈ q.body.head?, isIdle s = false

theorem proper_dropIdle {head : Head} (single : ∀ s ∈ body, '/' ∉ s.toList)
    (first : head = .none → ∀ s ∈ body.head?, isIdle s = false) :
    Proper ⟨head, dropIdle body⟩ where
  single s hs := single s ((front_dropIdle body).subset hs)
  last := dropIdle_dropIdle body
  first relative s hs := by
    obtain ⟨idle, whole⟩ := front_dropIdle body
    refine first relative s ?_
    rw [← whole, List.head?_append]
    rw [show (dropIdle body).head? = some s from hs]
    rfl

theorem proper_parts (p : Path) : (parts p).Proper := by
  have single : ∀ s ∈ segments p, '/' ∉ s.toList := fun s => slash_not_mem_of_mem_segments
  obtain ⟨_, body, hs, hp⟩ | rfl | ⟨_, body, hs, hp⟩ | ⟨_, first, body, busy, hs, hp⟩ :=
    parts_cases p
  · rw [hp]
    exact proper_dropIdle (fun s h => single s (hs ▸ List.mem_cons_of_mem _ h)) nofun
  · exact ⟨by decide, rfl, fun _ => by decide⟩
  · rw [hp]
    exact proper_dropIdle (fun s h => single s (hs ▸ List.mem_cons_of_mem _ h)) nofun
  · rw [hp]
    refine proper_dropIdle (hs ▸ single) fun _ s h => ?_
    rw [Option.mem_some_iff.mp h] at busy
    exact busy

theorem path_eq (some_name : q.body ≠ []) :
    q.path = q.head.text ++ String.intercalate "/" q.body := by
  have nonempty : q.body.isEmpty = false := by simpa using some_name
  unfold path
  cases q.head with
  | root => rfl
  | here => simp only [nonempty]; rfl
  | none => exact (String.empty_append ..).symm

/-- The parts of the path that leads to a path. -/
def outer (q : Parts) (front : List String) : Parts := ⟨q.head, dropIdle front⟩

theorem parent?_eq (h : q.body = front ++ [name]) : q.parent? = some (q.outer front) := by
  simp [parent?, h, outer]

namespace Proper

theorem busy (proper : q.Proper) (h : q.body = front ++ [name]) : isIdle name = false := by
  obtain ⟨front', name', h', busy⟩ := exists_concat proper.last (by simp [h])
  rw [h'] at h
  rwa [← List.singleton_inj.mp (List.append_inj_right' h rfl)]

theorem outer (proper : q.Proper) (h : q.body = front ++ [name]) : (q.outer front).Proper := by
  refine proper_dropIdle (fun s hs => proper.single s ?_) fun relative s hs => ?_
  · rw [h]
    exact List.mem_append_left _ hs
  · refine proper.first relative s ?_
    rw [h, List.head?_append, show front.head? = some s from hs]
    rfl

theorem segments_path (proper : q.Proper) (some_name : q.body ≠ []) :
    segments q.path = q.head.lead ++ q.body := by
  have body := segments_intercalate proper.single some_name
  rw [path_eq some_name]
  cases q.head with
  | root => exact (segments_append_slash "" _).trans (congrArg _ body)
  | here => exact (segments_append_slash "." _).trans (congrArg _ body)
  | none => exact (congrArg segments (String.empty_append ..)).trans body

theorem parts_path (proper : q.Proper) : parts q.path = q := by
  by_cases some_name : q.body = []
  · obtain ⟨head, body⟩ := q
    obtain rfl : body = [] := some_name
    cases head <;> decide
  · have segments := proper.segments_path some_name
    have path := path_eq some_name
    have last := proper.last
    have first := proper.first
    obtain ⟨head, body⟩ := q
    dsimp only at segments path last first
    unfold parts
    rw [segments]
    cases head with
    | root =>
        have absolute : isAbsolute (Parts.mk .root body).path = true := by
          rw [path]
          exact isAbsolute_append (by decide) _
        simp [Head.lead, absolute, last]
    | here => simp [Head.lead, last]
    | none =>
        obtain ⟨name, rest, rfl⟩ := List.exists_cons_of_ne_nil some_name
        have busy : isIdle name = false := first rfl name rfl
        simp only [Head.lead, List.nil_append]
        split
        next h => simp [(List.cons.inj h).1, isIdle] at busy
        next h => simp [(List.cons.inj h).1, isIdle] at busy
        · rw [last]

theorem path_ne_empty (proper : q.Proper) (some_name : q.body ≠ []) : q.path ≠ "" := by
  intro nothing
  have apart := proper.parts_path
  rw [nothing] at apart
  exact some_name (congrArg Parts.body apart).symm

end Proper

/-- An outer path is the beginning of the path it leads to. -/
theorem exists_path_eq (h : q.body = front ++ [name]) :
    ∃ rest, q.path = (q.outer front).path ++ rest := by
  have some_name : q.body ≠ [] := by simp [h]
  obtain ⟨idle, _, whole⟩ := exists_idle front
  have body : q.body = dropIdle front ++ (idle ++ [name]) := by
    rw [h, ← List.append_assoc, ← whole]
  rw [path_eq some_name, body]
  by_cases first : dropIdle front = []
  · obtain ⟨rest, there⟩ : ∃ rest, q.head.text = (q.outer front).path ++ rest := by
      unfold Parts.outer
      rw [first]
      cases q.head
      · exact ⟨"", rfl⟩
      · exact ⟨"/", rfl⟩
      · exact ⟨"", rfl⟩
    exact ⟨_, by rw [there, String.append_assoc]⟩
  · have path : (q.outer front).path = q.head.text ++ String.intercalate "/" (dropIdle front) :=
      path_eq (q := q.outer front) first
    rw [String.intercalate_append_of_ne_nil first (by simp), path]
    exact ⟨"/" ++ String.intercalate "/" (idle ++ [name]), by simp only [String.append_assoc]⟩

end Parts

end Path

end Speedup
