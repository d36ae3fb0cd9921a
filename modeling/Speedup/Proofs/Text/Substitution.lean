import Mathlib.Data.List.Find
import Mathlib.Data.List.Infix
import Mathlib.Data.List.Nodup
import Speedup.Text.Substitution

/-!
# Marks replaced at once

Several marks can be replaced in one pass (`replaceEach`), of which replacing a single one is a case
(`replaceAll_eq_replaceEach`). A pass is made piece by piece where a text is divided by one that no
mark reaches into (`replaceEach_append`). It changes nothing where there is no mark, and a mark with
a longer replacement always shows in the length (`length_lt_replaceAll`).
-/

namespace Speedup.Text

abbrev Marks := List (List Char × List Char)

/-- The mark that a text begins with; where there are several, the first of them counts. -/
def markAt? (marks : Marks) (cs : List Char) : Option (List Char × List Char) :=
  marks.find? fun p => p.1.isPrefixOf cs

/-- Replaces marks by their texts after passing over the first `skip` characters. -/
def replaceEachFrom (marks : Marks) : (skip : Nat) → List Char → List Char
  | _, [] => []
  | skip + 1, _ :: rest => replaceEachFrom marks skip rest
  | 0, c :: rest =>
    match markAt? marks (c :: rest) with
    | some p => p.2 ++ replaceEachFrom marks (p.1.length - 1) rest
    | none => c :: replaceEachFrom marks 0 rest

/-- A text in which every mark is replaced by its own text, all of them in one pass. -/
def replaceEach (pairs : List (String × String)) (text : String) : String :=
  String.ofList (replaceEachFrom (pairs.map fun p => (p.1.toList, p.2.toList)) 0 text.toList)

variable {marks : Marks} {mark by' cs a b : List Char} {p : List Char × List Char} {c : Char}
  {skip : Nat}

theorem replaceFrom_eq_replaceEachFrom (mark by' : List Char) (skip : Nat) (cs : List Char) :
    replaceFrom mark by' skip cs = replaceEachFrom [(mark, by')] skip cs := by
  fun_induction replaceFrom mark by' skip cs with
  | case1 => rw [replaceEachFrom]
  | case2 skip c rest ih => rw [replaceEachFrom, ih]
  | case3 c rest found ih =>
      have here : markAt? [(mark, by')] (c :: rest) = some (mark, by') := by simp [markAt?, found]
      rw [replaceEachFrom, here, ih]
  | case4 c rest other ih =>
      have nowhere : markAt? [(mark, by')] (c :: rest) = none := by simp [markAt?, other]
      rw [replaceEachFrom, nowhere, ih]

theorem replaceAll_eq_replaceEach (mark by' text : String) :
    replaceAll mark by' text = replaceEach [(mark, by')] text :=
  congrArg String.ofList (replaceFrom_eq_replaceEachFrom _ _ _ _)

/-! ## Marks and the places they are at -/

theorem markAt?_eq_none_iff : markAt? marks cs = none ↔ ∀ p ∈ marks, ¬ p.1 <+: cs := by
  simp only [markAt?, List.find?_eq_none, List.isPrefixOf_iff_prefix]

theorem prefix_of_markAt? (h : markAt? marks cs = some p) : p.1 <+: cs := by
  unfold markAt? at h
  simpa using List.find?_some h

/-- A mark does not reach over a character that it does not contain. -/
theorem prefix_append_cons_iff (h : c ∉ mark) : mark <+: a ++ c :: b ↔ mark <+: a := by
  refine ⟨fun found => ?_, fun found => found.trans (List.prefix_append a _)⟩
  by_cases short : mark.length ≤ a.length
  · exact List.prefix_of_prefix_length_le found (List.prefix_append a _) short
  · have beyond : a ++ [c] <+: a ++ c :: b := ⟨b, by simp⟩
    have inside : a ++ [c] <+: mark :=
      List.prefix_of_prefix_length_le beyond found (by simp; omega)
    exact absurd (inside.subset (by simp)) h

theorem markAt?_append_cons (apart : ∀ p ∈ marks, c ∉ p.1) (a b : List Char) :
    markAt? marks (a ++ c :: b) = markAt? marks a := by
  refine List.find?_congr fun p hp => ?_
  rw [Bool.eq_iff_iff, List.isPrefixOf_iff_prefix, List.isPrefixOf_iff_prefix]
  exact prefix_append_cons_iff (apart p hp)

/-! ## Passes piece by piece -/

theorem replaceEachFrom_length_append (marks : Marks) (a b : List Char) :
    replaceEachFrom marks a.length (a ++ b) = replaceEachFrom marks 0 b := by
  induction a with
  | nil => rfl
  | cons c rest ih => exact ih

theorem replaceEachFrom_of_markAt? (h : markAt? marks mark = some (mark, by')) (ne : mark ≠ []) :
    replaceEachFrom marks 0 mark = by' := by
  obtain ⟨c, rest, rfl⟩ := List.exists_cons_of_ne_nil ne
  have behind := replaceEachFrom_length_append marks rest []
  rw [List.append_nil] at behind
  rw [replaceEachFrom, h]
  show by' ++ replaceEachFrom marks rest.length rest = by'
  rw [behind, replaceEachFrom, List.append_nil]

/-- The text before and behind a character that is in no mark. The induction is on the text before
it, of which some characters may be passed over. -/
theorem replaceEachFrom_append_cons (filled : ∀ p ∈ marks, p.1 ≠ []) (apart : ∀ p ∈ marks, c ∉ p.1)
    (enough : skip ≤ a.length) : replaceEachFrom marks skip (a ++ c :: b) =
      replaceEachFrom marks skip a ++ c :: replaceEachFrom marks 0 b := by
  fun_induction replaceEachFrom marks skip a with
  | case1 skip =>
      obtain rfl : skip = 0 := by simpa using enough
      have nowhere : markAt? marks (c :: b) = none := by
        refine (markAt?_append_cons apart [] b).trans (markAt?_eq_none_iff.mpr fun p hp => ?_)
        rw [List.prefix_nil]
        exact filled p hp
      rw [List.nil_append, replaceEachFrom, nowhere]
      rfl
  | case2 skip x rest ih => exact ih (by simpa using enough)
  | case3 x rest p found ih =>
      -- the occurrence ends before the character, so that what is passed over does too
      have inside := (prefix_of_markAt? found).length_le
      have same := (markAt?_append_cons apart (x :: rest) b).trans found
      rw [List.cons_append] at same ⊢
      rw [replaceEachFrom, same]
      simp only [List.append_assoc]
      rw [ih (by simp at inside; omega)]
  | case4 x rest nowhere ih =>
      have same := (markAt?_append_cons apart (x :: rest) b).trans nowhere
      rw [List.cons_append] at same ⊢
      rw [replaceEachFrom, same]
      exact congrArg (x :: ·) (ih (Nat.zero_le _))

/-- Where no mark is, nothing is changed. -/
theorem replaceEachFrom_of_not_infix (h : ∀ p ∈ marks, ¬ p.1 <:+: cs) :
    replaceEachFrom marks 0 cs = cs := by
  induction cs with
  | nil => rfl
  | cons c rest ih =>
      have nowhere : markAt? marks (c :: rest) = none :=
        markAt?_eq_none_iff.mpr fun p hp found => h p hp found.isInfix
      rw [replaceEachFrom, nowhere]
      exact congrArg (c :: ·) (ih fun p hp found => h p hp (List.infix_cons found))

/-- Text without the character that marks begin with is passed over. -/
theorem replaceEachFrom_append_of_not_mem (opened : ∀ p ∈ marks, ∃ rest, p.1 = c :: rest)
    (plain : c ∉ a) : replaceEachFrom marks 0 (a ++ b) = a ++ replaceEachFrom marks 0 b := by
  induction a with
  | nil => rfl
  | cons x rest ih =>
      obtain ⟨other, later⟩ := not_or.mp (List.mem_cons.not.mp plain)
      have nowhere : markAt? marks (x :: (rest ++ b)) = none := by
        refine markAt?_eq_none_iff.mpr fun p hp found => other ?_
        obtain ⟨_, begins⟩ := opened p hp
        rw [begins] at found
        exact (List.cons_prefix_cons.mp found).1
      rw [List.cons_append, replaceEachFrom, nowhere]
      exact congrArg (x :: ·) (ih later)

/-- A text is somewhere in another. -/
def Occurs (mark text : String) : Prop := mark.toList <:+: text.toList

instance (mark text : String) : Decidable (Occurs mark text) :=
  inferInstanceAs (Decidable (_ <:+: _))

/-- A text that divides others: every mark begins with a character that it does not have, and none
has its first one. -/
structure Divides (opening : Char) (marks : List String) (s : String) : Prop where
  opened : ∀ m ∈ marks, ∃ rest, m.toList = opening :: rest
  plain : opening ∉ s.toList
  apart : ∃ c rest, s.toList = c :: rest ∧ ∀ m ∈ marks, c ∉ m.toList

section Pieces

variable {opening : Char} {pairs : List (String × String)} {s : String}

theorem Divides.of_subset {marks marks' : List String} (h : Divides opening marks' s)
    (subset : marks ⊆ marks') : Divides opening marks s := by
  obtain ⟨c, rest, parts, apart⟩ := h.apart
  exact ⟨fun m hm => h.opened m (subset hm), h.plain, c, rest, parts,
    fun m hm => apart m (subset hm)⟩

/-- Before and behind a text that divides the whole, marks are replaced separately. -/
theorem replaceEach_append (h : Divides opening (pairs.map (·.1)) s) (a b : String) :
    replaceEach pairs (a ++ s ++ b) = replaceEach pairs a ++ s ++ replaceEach pairs b := by
  obtain ⟨c, rest, parts, apart⟩ := h.apart
  have plain := h.plain
  rw [parts] at plain
  let marks : Marks := pairs.map fun p => (p.1.toList, p.2.toList)
  have opened : ∀ p ∈ marks, ∃ rest, p.1 = opening :: rest :=
    List.forall_mem_map.mpr fun p hp => h.opened p.1 (List.mem_map_of_mem hp)
  have filled : ∀ p ∈ marks, p.1 ≠ [] := by
    intro p hp
    obtain ⟨_, begins⟩ := opened p hp
    rw [begins]
    exact List.cons_ne_nil _ _
  have apart : ∀ p ∈ marks, c ∉ p.1 :=
    List.forall_mem_map.mpr fun p hp => apart p.1 (List.mem_map_of_mem hp)
  have behind : replaceEachFrom marks 0 (rest ++ b.toList) =
      rest ++ replaceEachFrom marks 0 b.toList :=
    replaceEachFrom_append_of_not_mem opened (List.not_mem_of_not_mem_cons plain)
  rw [← String.toList_inj]
  simp only [replaceEach, String.toList_append, String.toList_ofList, parts, List.append_assoc,
    List.cons_append]
  rw [replaceEachFrom_append_cons filled apart (Nat.zero_le _), behind]

theorem replaceEach_append_left (h : Divides opening (pairs.map (·.1)) s) (b : String) :
    replaceEach pairs (s ++ b) = s ++ replaceEach pairs b := by
  have whole := replaceEach_append h "" b
  rwa [String.empty_append, show replaceEach pairs "" = "" from rfl, String.empty_append] at whole

theorem replaceEach_append_right (h : Divides opening (pairs.map (·.1)) s) (a : String) :
    replaceEach pairs (a ++ s) = replaceEach pairs a ++ s := by
  have whole := replaceEach_append h a ""
  rwa [String.append_empty, show replaceEach pairs "" = "" from rfl, String.append_empty] at whole

/-- A mark that no other one occurs in is replaced by its own text. -/
theorem replaceEach_mark {mark by' : String} (ne : mark ≠ "") (there : (mark, by') ∈ pairs)
    (nodup : (pairs.map (·.1)).Nodup) (apart : ∀ p ∈ pairs, p.1 ≠ mark → ¬ Occurs p.1 mark) :
    replaceEach pairs mark = by' := by
  have here : markAt? (pairs.map fun p => (p.1.toList, p.2.toList)) mark.toList =
      some (mark.toList, by'.toList) := by
    rw [markAt?, List.find?_map, Option.map_eq_some_iff]
    refine ⟨(mark, by'), ?_, rfl⟩
    cases first : pairs.find? _ with
    | none =>
        have missed := List.find?_eq_none.mp first _ there
        simp at missed
    | some p =>
        have hp := List.mem_of_find?_eq_some first
        have found : p.1.toList <+: mark.toList := by simpa using List.find?_some first
        have same : p.1 = mark := by
          by_contra other
          exact apart p hp other found.isInfix
        rw [List.inj_on_of_nodup_map nodup hp there same]
  rw [replaceEach, replaceEachFrom_of_markAt? here (by simpa using ne), String.ofList_toList]

end Pieces

/-! ## A single mark -/

section Single

variable {mark by' text : String}

theorem replaceAll_of_not_occurs (h : ¬ Occurs mark text) : replaceAll mark by' text = text := by
  have none_inside : ∀ p ∈ [(mark.toList, by'.toList)], ¬ p.1 <:+: text.toList := by
    intro p hp
    rwa [List.mem_singleton.mp hp]
  rw [replaceAll, replaceFrom_eq_replaceEachFrom, replaceEachFrom_of_not_infix none_inside,
    String.ofList_toList]

theorem replaceAll_mark (ne : mark ≠ "") (by' : String) : replaceAll mark by' mark = by' := by
  rw [replaceAll_eq_replaceEach]
  refine replaceEach_mark ne List.mem_cons_self (List.nodup_singleton _) fun p hp other => ?_
  exact absurd (congrArg Prod.fst (List.mem_singleton.mp hp)) other

theorem length_le_replaceFrom {mark by' : List Char} (longer : mark.length < by'.length)
    (skip : Nat) (cs : List Char) : cs.length ≤ (replaceFrom mark by' skip cs).length + skip := by
  fun_induction replaceFrom mark by' skip cs with
  | case1 => exact Nat.zero_le _
  | case2 skip c rest ih =>
      rw [List.length_cons]
      omega
  | case3 c rest found ih =>
      rw [List.length_cons, List.length_append]
      omega
  | case4 c rest other ih =>
      rw [List.length_cons, List.length_cons]
      omega

theorem length_lt_replaceFrom {mark by' cs : List Char} (longer : mark.length < by'.length)
    (ne : mark ≠ []) (occurs : mark <:+: cs) : cs.length < (replaceFrom mark by' 0 cs).length := by
  induction cs with
  | nil => exact absurd (List.infix_nil.mp occurs) ne
  | cons c rest ih =>
      rw [replaceFrom]
      split
      · have later := length_le_replaceFrom longer (mark.length - 1) rest
        have some_character := List.length_pos_iff.mpr ne
        rw [List.length_cons, List.length_append]
        omega
      next other =>
        rcases List.infix_cons_iff.mp occurs with here | later
        · exact absurd (List.isPrefixOf_iff_prefix.mpr here) other
        · rw [List.length_cons, List.length_cons]
          exact Nat.succ_lt_succ (ih later)

/-- A replacement that is longer than its mark makes no text shorter. -/
theorem length_le_replaceAll (longer : mark.length < by'.length) (text : String) :
    text.length ≤ (replaceAll mark by' text).length := by
  rw [← String.length_toList, ← String.length_toList] at longer
  rw [replaceAll, ← String.length_toList, ← String.length_toList, String.toList_ofList]
  exact length_le_replaceFrom longer 0 text.toList

/-- Where the mark occurs, it makes a text longer. -/
theorem length_lt_replaceAll (longer : mark.length < by'.length) (ne : mark ≠ "")
    (occurs : Occurs mark text) : text.length < (replaceAll mark by' text).length := by
  rw [← String.length_toList, ← String.length_toList] at longer
  rw [replaceAll, ← String.length_toList, ← String.length_toList, String.toList_ofList]
  exact length_lt_replaceFrom longer (by simpa using ne) occurs

end Single

end Speedup.Text
