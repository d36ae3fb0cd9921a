import Speedup.Overview
import Speedup.Proofs.Comparison.Contents
import Speedup.Proofs.Files.Resolution

/-!
# What a ranking says as text

The block of a metric is a title and a line for every row of the ranking. It can be read line by
line (`Text.lines`) because numbers are written without ends of lines; an executable whose name has
none is on one line then. The baseline is in every ranking, and once only, so exactly one line
bears its mark (`lists_of_ofMeans`).
-/

namespace Speedup

/-! ## Lines -/

namespace Text

variable {s a b : String}

/-- The lines of a text. Behind the last end of a line there is one more, perhaps empty. -/
def lines (s : String) : List String := (splitAt '\n' s.toList).map String.ofList

theorem lines_append_line (a b : String) : lines (a ++ "\n" ++ b) = lines a ++ lines b := by
  have split : (a ++ "\n" ++ b).toList = a.toList ++ '\n' :: b.toList := by simp
  rw [lines, split, splitAt_append, List.map_append]
  rfl

/-- A text without an end of a line. -/
def OneLine (s : String) : Prop := '\n' ∉ s.toList

instance : Decidable (OneLine s) := inferInstanceAs (Decidable (¬ _))

theorem OneLine.lines_eq (h : OneLine s) : lines s = [s] := by
  rw [lines, splitAt_of_not_mem h, List.map_singleton, String.ofList_toList]

theorem lines_intercalate {first : String} {rest : List String} (h : ∀ s ∈ rest, OneLine s) :
    lines (String.intercalate "\n" (first :: rest)) = lines first ++ rest := by
  induction rest generalizing first with
  | nil => simp
  | cons s more ih =>
      rw [List.forall_mem_cons] at h
      rw [String.intercalate_cons_cons, lines_append_line, ih h.2, h.1.lines_eq]
      rfl

@[simp] theorem oneLine_append_iff : OneLine (a ++ b) ↔ OneLine a ∧ OneLine b := by
  simp [OneLine]

theorem oneLine_fill (width : Nat) (s : String) : OneLine (fill width s) := by
  rw [OneLine, fill, String.toList_ofList]
  intro newline
  exact absurd (List.eq_of_mem_replicate newline) (by decide)

@[simp] theorem oneLine_alignLeft_iff {width : Nat} : OneLine (alignLeft width s) ↔ OneLine s := by
  simp [alignLeft, oneLine_fill]

@[simp] theorem oneLine_alignRight_iff {width : Nat} :
    OneLine (alignRight width s) ↔ OneLine s := by
  simp [alignRight, oneLine_fill]

@[simp] theorem oneLine_repr (n : Nat) : OneLine (Nat.repr n) := by
  rw [OneLine, Nat.toList_repr]
  intro newline
  exact absurd (Nat.isDigit_of_mem_toDigits (by decide) (by decide) newline) (by decide)

end Text

/-! ## Characters of numbers -/

namespace Decimal

variable {c : Char} {places : Nat} {ds : List Char}

theorem mem_pointed (h : c ∈ pointed places ds) : c ∈ ds ∨ c = '.' := by
  unfold pointed at h
  split at h
  · exact .inl h
  · obtain front | rfl | back := List.mem_append.mp h |>.imp_right List.mem_cons.mp
    · exact .inl (List.mem_of_mem_take front)
    · exact .inr rfl
    · exact .inl (List.mem_of_mem_drop back)

theorem mem_fixedMagnitude {x : Double} (h : c ∈ fixedMagnitude places x) :
    c.isDigit = true ∨ c = '.' := by
  have zero : ∀ {n : Nat}, c ∈ List.replicate n '0' → c.isDigit = true := by
    intro n padding
    rw [List.eq_of_mem_replicate padding]
    decide
  obtain shown | padding := List.mem_append.mp h
  · refine (mem_pointed shown).imp_left fun digit => ?_
    obtain padding | digit := List.mem_append.mp digit
    · exact zero padding
    · exact Nat.isDigit_of_mem_toDigits (by decide) (by decide) digit
  · exact .inl (zero padding)

theorem mem_fixed {x : Double} (h : c ∈ (fixed places x).toList) :
    c.isDigit = true ∨ c ∈ ".-NaNinf".toList := by
  have body : ∀ c ∈ if x.isInfinite then ['i', 'n', 'f'] else fixedMagnitude places x,
      c.isDigit = true ∨ c ∈ ".-NaNinf".toList := by
    intro c hc
    split at hc
    · exact .inr ((by decide : ['i', 'n', 'f'] ⊆ ".-NaNinf".toList) hc)
    · refine (mem_fixedMagnitude hc).imp_right ?_
      rintro rfl
      decide
  unfold fixed at h
  dsimp only at h
  split at h
  · exact .inr ((by decide : "NaN".toList ⊆ ".-NaNinf".toList) h)
  · rw [String.toList_ofList] at h
    split at h
    · rcases List.mem_cons.mp h with rfl | h
      · exact .inr (by decide)
      · exact body c h
    · exact body c h

@[simp] theorem oneLine_fixed (places : Nat) (x : Double) : Text.OneLine (fixed places x) := by
  intro newline
  obtain digit | other := mem_fixed newline
  · exact absurd digit (by decide)
  · exact absurd other (by decide)

end Decimal

/-! ## The block of a metric -/

namespace Overview

variable {key : String} {c : Comparison} {r : Ranked}

def title (key : String) : String := "=== OVERALL PERFORMANCE | " ++ key ++ " ==="

def noResult (key : String) : String := title key ++ "\n(no result)\n"

theorem block_none (key : String) : block key none = noResult key := rfl

theorem block_some (ranked : c.ranking ≠ []) : block key (some c) =
    String.intercalate "\n" (title key :: c.ranking.map (rankedLine c)) ++ "\n" := by
  have full : ¬ c.ranking.isEmpty = true := by rwa [List.isEmpty_iff]
  exact if_neg full

theorem oneLine_rankedLine (single : Text.OneLine r.exe) : Text.OneLine (rankedLine c r) := by
  have mark : Text.OneLine (if c.isBaseline r.exe then "   (baseline)" else "") := by
    split <;> decide
  simp only [rankedLine, wide, Text.oneLine_append_iff, Text.oneLine_alignLeft_iff,
    Text.oneLine_alignRight_iff, Text.oneLine_repr, Decimal.oneLine_fixed, single, mark, and_true]
  decide

def mark : String := "   (baseline)"

/-- A line that bears the mark. -/
def Marked (line : String) : Prop := mark.toList <:+ line.toList

instance (line : String) : Decidable (Marked line) := inferInstanceAs (Decidable (_ <:+ _))

/-- A line begins with a blank, tells the name of its executable and ends in a rate, behind which
there is the mark or nothing. -/
theorem rankedLine_eq (c : Comparison) (r : Ranked) : ∃ rank numbers : String,
    rankedLine c r = " " ++ rank ++ r.exe ++ numbers ++ "% " ++
      (if c.isBaseline r.exe then mark else "") := by
  refine ⟨Text.alignRight 2 (Nat.repr r.rank) ++ ". ",
    Text.fill 24 r.exe ++ (" gmean (x) vs base: " ++ wide 3 r.geoMean ++ " | median (x): " ++
      wide 3 r.median ++ " | best (winning) rate: " ++ wide 1 (r.winRate * 100)), ?_⟩
  simp only [rankedLine, mark, Text.alignLeft, String.append_assoc]

theorem exe_infix_rankedLine (c : Comparison) (r : Ranked) :
    r.exe.toList <:+: (rankedLine c r).toList := by
  obtain ⟨rank, numbers, line⟩ := rankedLine_eq c r
  refine ⟨(" " ++ rank).toList, (numbers ++ "% " ++ if c.isBaseline r.exe then mark else "").toList,
    ?_⟩
  rw [line]
  simp only [String.toList_append, List.append_assoc]

theorem marked_rankedLine_iff : Marked (rankedLine c r) ↔ r.exe = c.baseline := by
  obtain ⟨rank, numbers, line⟩ := rankedLine_eq c r
  rw [Marked, line]
  by_cases baseline : r.exe = c.baseline
  · have is_baseline : c.isBaseline r.exe = true := by simp [Comparison.isBaseline, baseline]
    rw [if_pos is_baseline, String.toList_append]
    exact ⟨fun _ => baseline, fun _ => List.suffix_append _ _⟩
  · have other : c.isBaseline r.exe = false := by
      simpa [Comparison.isBaseline] using Ne.symm baseline
    rw [if_neg (by simp [other])]
    refine ⟨?_, fun h => absurd h baseline⟩
    rintro ⟨front, same⟩
    have mark_end : mark.toList.getLast? = some ')' := by decide
    have rate_end : "% ".toList.getLast? = some ' ' := by decide
    have last := congrArg List.getLast? same
    rw [String.append_empty, String.toList_append, List.getLast?_append, List.getLast?_append,
      mark_end, rate_end] at last
    cases last

theorem rankedLine_ne_noResult (c : Comparison) (r : Ranked) : rankedLine c r ≠ "(no result)" := by
  obtain ⟨rank, numbers, line⟩ := rankedLine_eq c r
  intro same
  have first := congrArg (·.toList.head?) (line.symm.trans same)
  simp at first

/-- What the block of a comparison lists: behind the title a line for every row of the ranking, each
with the name of its executable, and the mark on the line of the baseline alone. -/
structure Lists (key baseline : String) (c : Comparison) : Prop where
  lines : Text.lines (block key (some c)) =
    Text.lines (title key) ++ c.ranking.map (rankedLine c) ++ [""]
  named : ∀ r ∈ c.ranking, r.exe.toList <:+: (rankedLine c r).toList
  distinct : (c.ranking.map (·.exe)).Nodup
  marked : ∃ r, c.ranking.filter (fun r => Marked (rankedLine c r)) = [r] ∧ r.exe = baseline

theorem lines_block (ranked : c.ranking ≠ []) (single : ∀ r ∈ c.ranking, Text.OneLine r.exe) :
    Text.lines (block key (some c)) =
      Text.lines (title key) ++ c.ranking.map (rankedLine c) ++ [""] := by
  have whole := Text.lines_append_line
    (String.intercalate "\n" (title key :: c.ranking.map (rankedLine c))) ""
  rw [String.append_empty] at whole
  rw [block_some ranked, whole, Text.lines_intercalate]
  · rfl
  · exact List.forall_mem_map.mpr fun r hr => oneLine_rankedLine (single r hr)

theorem lines_noResult (key : String) :
    Text.lines (noResult key) = Text.lines (title key) ++ ["(no result)", ""] := by
  have last : Text.lines "(no result)\n" = ["(no result)", ""] := by decide
  calc Text.lines (noResult key)
      = Text.lines (title key ++ "\n" ++ "(no result)\n") := by rw [String.append_assoc]; rfl
    _ = Text.lines (title key) ++ Text.lines "(no result)\n" := Text.lines_append_line _ _
    _ = Text.lines (title key) ++ ["(no result)", ""] := by rw [last]

variable {means : BenchMeans} {baseline : String}

theorem ranking_ne_nil_of_ofMeans (h : Comparison.ofMeans means baseline = some c) :
    c.ranking ≠ [] := by
  rintro none_ranked
  have there := (Comparison.describes_of_ofMeans h).baseline_ranked
  rw [none_ranked] at there
  cases there

theorem lists_of_ofMeans (key : String) (h : Comparison.ofMeans means baseline = some c)
    (single : ∀ r ∈ c.ranking, Text.OneLine r.exe) : Lists key baseline c := by
  have describes := Comparison.describes_of_ofMeans h
  refine ⟨lines_block (ranking_ne_nil_of_ofMeans h) single,
    fun r _ => exe_infix_rankedLine c r, describes.exes_nodup, ?_⟩
  obtain ⟨r, hr, rfl⟩ := List.mem_map.mp describes.baseline_ranked
  refine ⟨r, ?_, rfl⟩
  rw [← Ordered.filter_key_eq_singleton (·.exe) describes.exes_nodup hr]
  refine List.filter_congr fun other _ => ?_
  simp only [marked_rankedLine_iff, describes.baseline_eq]

/-- The block of a comparison says that there is a result. -/
theorem block_ne_noResult (h : Comparison.ofMeans means baseline = some c)
    (single : ∀ r ∈ c.ranking, Text.OneLine r.exe) : block key (some c) ≠ noResult key := by
  intro same
  have ranked := ranking_ne_nil_of_ofMeans h
  have lines : Text.lines (noResult key) = Text.lines (title key) ++ c.ranking.map (rankedLine c) ++
      [""] := same ▸ lines_block ranked single
  rw [lines_noResult, List.append_assoc, List.append_cancel_left_eq] at lines
  obtain ⟨r, rest, hr⟩ := List.exists_cons_of_ne_nil ranked
  rw [hr, List.map_cons] at lines
  exact rankedLine_ne_noResult c r (List.cons.inj lines).1.symm

end Overview

end Speedup
