import Mathlib.Data.List.DropRight
import Mathlib.Data.Option.Basic
import Speedup.Csv.Reader
import Speedup.Proofs.Text.Utf8
import Speedup.Text.Blank

/-!
# Blanks at the ends

Trimming takes away the blanks at the ends of a text and nothing else: with more blanks around it a
text is trimmed to the same (`trim_congr`), and one that neither begins nor ends with a blank stays
as it is (`Bare.trim_eq`). Counting the words of a text does not see blanks at its ends either:
there is at most one as long as no blank stands between letters (`length_words_le_one_iff`). Some
blanks are single octets. They may be taken off before the octets are read, and what is read then is
trimmed to the same text (`decode?_trimOctets`).
-/

namespace Speedup.Text

/-! ## Trimming -/

/-- Blanks around a text are trimmed away with its own. -/
theorem trim_congr {front back : List Char} {s t : String}
    (hf : ∀ c ∈ front, isBlank c = true) (hb : ∀ c ∈ back, isBlank c = true)
    (h : s.toList = front ++ t.toList ++ back) : trim s = trim t := by
  have left : trimLeft s.toList = trimLeft (t.toList ++ back) := by
    rw [h, List.append_assoc]
    exact List.dropWhile_append_of_pos hf
  have nothing : trimLeft back = [] := List.dropWhile_eq_nil_iff.mpr hb
  unfold trim
  rw [left, trimLeft, List.dropWhile_append, ← trimLeft, ← trimLeft, nothing]
  by_cases blank : trimLeft t.toList = []
  · simp [blank]
  · rw [if_neg (by simpa using blank), trimRight, List.reverse_append,
      List.dropWhile_append_of_pos (by simpa using hb), ← trimRight]

/-- A text that neither begins nor ends with a blank. -/
structure Bare (s : String) : Prop where
  head : ∀ c, s.toList.head? = some c → isBlank c = false
  last : ∀ c, s.toList.getLast? = some c → isBlank c = false

theorem bare_of_forall {s : String} (h : ∀ c ∈ s.toList, isBlank c = false) : Bare s :=
  ⟨fun c hc => h c (List.mem_of_head? hc), fun c hc => h c (List.mem_of_getLast? hc)⟩

theorem Bare.trim_eq {s : String} (bare : Bare s) : trim s = s := by
  have left : trimLeft s.toList = s.toList := by
    unfold trimLeft
    cases h : s.toList with
    | nil => rfl
    | cons c cs => rw [List.dropWhile_cons_of_neg (by rw [bare.head c (by rw [h]; rfl)]; simp)]
  have right : trimRight s.toList = s.toList := by
    unfold trimRight
    rcases List.eq_nil_or_concat s.toList with h | ⟨cs, c, h⟩
    · rw [h]
      rfl
    · have last : s.toList.getLast? = some c := by simp [h]
      rw [h, List.concat_eq_append, List.reverse_append, List.reverse_singleton,
        List.singleton_append, List.dropWhile_cons_of_neg (by rw [bare.last c last]; simp)]
      simp
  rw [trim, left, right, String.ofList_toList]

/-- What is left between the blanks at the ends. -/
theorem bare_trim (s : String) : Bare (trim s) := by
  have parts : (trim s).toList = (trimLeft s.toList).rdropWhile isBlank := String.toList_ofList
  constructor
  · intro c hc
    rw [parts] at hc
    obtain ⟨back, whole⟩ := List.rdropWhile_prefix isBlank (l := trimLeft s.toList)
    have first : s.toList.find? (fun c => !isBlank c) = some c := by
      rw [List.find?_not_eq_head?_dropWhile, ← trimLeft, ← whole, List.head?_append, hc]
      rfl
    simpa using List.find?_some first
  · intro c hc
    rw [parts] at hc
    have some_char := List.ne_nil_of_mem (List.mem_of_getLast? hc)
    rw [List.getLast?_eq_some_getLast some_char, Option.some_inj] at hc
    rw [← hc, ← Bool.not_eq_true]
    exact List.rdropWhile_last_not isBlank _ some_char

theorem isBlank_of_isDigit {c : Char} (h : c.isDigit = true) : isBlank c = false := by
  simp only [Char.isDigit, Bool.and_eq_true, decide_eq_true_eq] at h
  have low : 48 ≤ c.toNat := h.1
  have high : c.toNat ≤ 57 := h.2
  by_contra blank
  simp only [isBlank, Bool.not_eq_false, Bool.or_eq_true, Bool.and_eq_true, decide_eq_true_eq,
    beq_iff_eq] at blank
  omega

/-! ## Words -/

theorem wordsAfter_ne_nil {current : List Char} (h : current ≠ []) (cs : List Char) :
    wordsAfter current cs ≠ [] := by
  induction cs generalizing current with
  | nil => simp [wordsAfter, h]
  | cons c cs ih =>
      unfold wordsAfter
      split
      · simp [h]
      · exact ih (by simp)

theorem wordsAfter_nil_eq_nil_iff {cs : List Char} :
    wordsAfter [] cs = [] ↔ ∀ c ∈ cs, isBlank c = true := by
  induction cs with
  | nil => simp [wordsAfter]
  | cons c cs ih =>
      rw [List.forall_mem_cons, wordsAfter]
      split
      next blank => simp [blank, ih]
      next other => simp [other, wordsAfter_ne_nil]

theorem wordsAfter_nil_append {front : List Char} (blanks : ∀ c ∈ front, isBlank c = true)
    (cs : List Char) : wordsAfter [] (front ++ cs) = wordsAfter [] cs := by
  induction front with
  | nil => rfl
  | cons c front ih =>
      obtain ⟨blank, others⟩ := List.forall_mem_cons.mp blanks
      rw [List.cons_append, wordsAfter, if_pos blank]
      exact ih others

theorem wordsAfter_append {word : List Char} (letters : ∀ c ∈ word, isBlank c = false)
    (current cs : List Char) :
    wordsAfter current (word ++ cs) = wordsAfter (current ++ word) cs := by
  induction word generalizing current with
  | nil => simp
  | cons c word ih =>
      obtain ⟨letter, others⟩ := List.forall_mem_cons.mp letters
      rw [List.cons_append, wordsAfter, letter, if_neg Bool.false_ne_true, ih others]
      simp

theorem length_wordsAfter_le_one {current back : List Char}
    (blanks : ∀ c ∈ back, isBlank c = true) : (wordsAfter current back).length ≤ 1 := by
  cases back with
  | nil => unfold wordsAfter; split <;> simp
  | cons c back =>
      obtain ⟨blank, others⟩ := List.forall_mem_cons.mp blanks
      rw [wordsAfter, if_pos blank, wordsAfter_nil_eq_nil_iff.mpr others]
      split <;> simp

/-- If an open word is the only one, nothing but blanks follow its end. -/
theorem exists_eq_append_of_length_wordsAfter {current cs : List Char} (h : current ≠ [])
    (one : (wordsAfter current cs).length ≤ 1) : ∃ word back, cs = word ++ back ∧
      (∀ c ∈ word, isBlank c = false) ∧ ∀ c ∈ back, isBlank c = true := by
  induction cs generalizing current with
  | nil => exact ⟨[], [], rfl, nofun, nofun⟩
  | cons c cs ih =>
      unfold wordsAfter at one
      split at one
      next blank =>
        rw [if_neg (by simpa using h), List.length_cons] at one
        have nothing : wordsAfter [] cs = [] := List.length_eq_zero_iff.mp (by omega)
        exact ⟨[], c :: cs, rfl, nofun,
          List.forall_mem_cons.mpr ⟨blank, wordsAfter_nil_eq_nil_iff.mp nothing⟩⟩
      next letter =>
        obtain ⟨word, back, rfl, letters, blanks⟩ := ih (by simp) one
        exact ⟨c :: word, back, rfl,
          List.forall_mem_cons.mpr ⟨Bool.eq_false_iff.mpr letter, letters⟩, blanks⟩

/-- A text is at most one word, with blanks before and after it. -/
def OneWord (s : String) : Prop := ∃ front word back : List Char, s.toList = front ++ word ++ back ∧
  (∀ c ∈ front, isBlank c = true) ∧ (∀ c ∈ word, isBlank c = false) ∧
  ∀ c ∈ back, isBlank c = true

theorem length_words_le_one_iff {s : String} : (words s).length ≤ 1 ↔ OneWord s := by
  rw [words, List.length_map, OneWord]
  generalize s.toList = cs
  constructor
  · intro one
    induction cs with
    | nil => exact ⟨[], [], [], rfl, nofun, nofun, nofun⟩
    | cons c cs ih =>
        unfold wordsAfter at one
        split at one
        next blank =>
          obtain ⟨front, word, back, rfl, before, letters, after⟩ := ih one
          exact ⟨c :: front, word, back, rfl, List.forall_mem_cons.mpr ⟨blank, before⟩, letters,
            after⟩
        next letter =>
          obtain ⟨word, back, rfl, letters, after⟩ :=
            exists_eq_append_of_length_wordsAfter (by simp) one
          exact ⟨[], c :: word, back, rfl, nofun,
            List.forall_mem_cons.mpr ⟨Bool.eq_false_iff.mpr letter, letters⟩, after⟩
  · rintro ⟨front, word, back, rfl, before, letters, after⟩
    rw [List.append_assoc, wordsAfter_nil_append before, wordsAfter_append letters]
    exact length_wordsAfter_le_one after

/-- A text without a blank is at most one word and neither begins nor ends with a blank, and with
blanks it is not both. -/
theorem oneWord_and_bare_iff {s : String} :
    OneWord s ∧ Bare s ↔ ∀ c ∈ s.toList, isBlank c = false := by
  constructor
  · rintro ⟨⟨front, word, back, parts, before, letters, after⟩, bare⟩
    have no_front : front = [] := by
      cases front with
      | nil => rfl
      | cons c front =>
          have letter := bare.head c (by rw [parts]; rfl)
          rw [before c List.mem_cons_self] at letter
          cases letter
    have no_back : back = [] := by
      rcases List.eq_nil_or_concat back with none | ⟨init, c, rfl⟩
      · exact none
      · have letter := bare.last c (by rw [parts]; simp)
        rw [after c (by simp)] at letter
        cases letter
    rw [parts, no_front, no_back, List.nil_append, List.append_nil]
    exact letters
  · intro letters
    exact ⟨⟨[], s.toList, [], by simp, nofun, letters, nofun⟩, bare_of_forall letters⟩

/-! ## Blank octets -/

/-- An octet that counts as a blank is read as one. -/
theorem isBlank_of_isBlankOctet {b : UInt8} (h : Csv.isBlankOctet b = true) :
    b.toNat < 0x80 ∧ isBlank (Char.ofNat b.toNat) = true := by
  simp only [Csv.isBlankOctet, Bool.or_eq_true, beq_iff_eq] at h
  rcases h with (((rfl | rfl) | rfl) | rfl) | rfl <;> decide

theorem exists_pieces_dropWhile (octets : List UInt8) :
    ∃ front : List Char, (∀ c ∈ front, isBlank c = true) ∧
      Utf8.pieces octets =
        front.map some ++ Utf8.pieces (octets.dropWhile Csv.isBlankOctet) := by
  induction octets with
  | nil => exact ⟨[], nofun, rfl⟩
  | cons b octets ih =>
      by_cases blank : Csv.isBlankOctet b = true
      · obtain ⟨small, char⟩ := isBlank_of_isBlankOctet blank
        obtain ⟨front, hf, same⟩ := ih
        refine ⟨Char.ofNat b.toNat :: front, List.forall_mem_cons.mpr ⟨char, hf⟩, ?_⟩
        rw [Utf8.pieces_cons_of_small small, same, List.dropWhile_cons_of_pos blank]
        rfl
      · refine ⟨[], nofun, ?_⟩
        rw [List.dropWhile_cons_of_neg blank]
        rfl

theorem exists_pieces_rdropWhile (octets : List UInt8) :
    ∃ back : List Char, (∀ c ∈ back, isBlank c = true) ∧
      Utf8.pieces octets =
        Utf8.pieces (octets.rdropWhile Csv.isBlankOctet) ++ back.map some := by
  induction octets using List.reverseRecOn with
  | nil => exact ⟨[], nofun, rfl⟩
  | append_singleton octets b ih =>
      by_cases blank : Csv.isBlankOctet b = true
      · obtain ⟨small, char⟩ := isBlank_of_isBlankOctet blank
        obtain ⟨back, hb, same⟩ := ih
        refine ⟨back ++ [Char.ofNat b.toNat], ?_, ?_⟩
        · exact List.forall_mem_append.mpr ⟨hb, by simpa using char⟩
        · rw [Utf8.pieces_concat_of_small small, same, List.rdropWhile_concat_pos _ _ _ blank]
          simp
      · refine ⟨[], nofun, ?_⟩
        rw [List.rdropWhile_concat_neg _ _ _ blank]
        simp

/-- Octets are text without the blanks at their ends if they are text with them, and the same text
once it is trimmed. -/
theorem decode?_trimOctets {octets : List UInt8} {s : String} (h : Utf8.decode? octets = .ok s) :
    ∃ t, Utf8.decode? (Csv.trimOctets octets) = .ok t ∧ trim t = trim s := by
  rw [Utf8.decode?_eq_ok_iff] at h
  obtain ⟨front, hf, left⟩ := exists_pieces_dropWhile octets
  obtain ⟨back, hb, right⟩ := exists_pieces_rdropWhile (octets.dropWhile Csv.isBlankOctet)
  have some_injective := List.map_injective_iff.mpr (Option.some_injective Char)
  rw [left, right, eq_comm, List.map_eq_append_iff] at h
  obtain ⟨front', rest, parts, same, h⟩ := h
  obtain ⟨cs, back', rfl, middle, same'⟩ := List.map_eq_append_iff.mp h
  obtain rfl := some_injective same
  obtain rfl := some_injective same'
  refine ⟨String.ofList cs, ?_, ?_⟩
  · rw [Utf8.decode?_eq_ok_iff, String.toList_ofList]
    exact middle.symm
  · symm
    apply trim_congr hf hb
    rw [parts, String.toList_ofList, List.append_assoc]

end Speedup.Text
