import Speedup.Csv.Writer
import Speedup.Proofs.Text.Blank

/-!
# Records of text

What is written as records is read as those records, whatever commas, quotes and line ends the
fields hold (`holds_join_record`). The reader goes through places in a field, and at each of them
the octets of a field lead on in one way only: outside of quotes they are taken as they are, since
none of them is special, and inside of quotes a doubled quote stands for one. Where a record is
counted to begin has no part in this, so the reader is seen without it (`Splitter.stand`).
-/

namespace Speedup.Csv

open Text

/-! ## The reader without positions -/

/-- Where the reader stands, and what it has read. -/
structure Stand where
  place : Place
  field : List UInt8
  fields : List (List UInt8)
  rows : List (List (List UInt8))

namespace Splitter

def stand (s : Splitter) : Stand := ⟨s.place, s.field, s.fields, s.records.map (·.fields)⟩

/-- Octets lead the reader from where it stands to somewhere else. -/
def Leads (a : Stand) (octets : List UInt8) (b : Stand) : Prop :=
  ∀ s : Splitter, s.stand = a → (octets.foldl step s).stand = b

variable {a b c : Stand} {octets : List UInt8} {field : List UInt8}
  {fields : List (List UInt8)} {rows : List (List (List UInt8))} {octet : UInt8} {place : Place}

theorem Leads.nil (a : Stand) : Leads a [] a := fun _ h => h

theorem Leads.append {octets' : List UInt8} (first : Leads a octets b) (later : Leads b octets' c) :
    Leads a (octets ++ octets') c := by
  intro s h
  rw [List.foldl_append]
  exact later _ (first s h)

/-- An octet that is no comma, no quote and no end of a line. -/
def IsPlain (octet : UInt8) : Prop := octet ≠ comma ∧ octet ≠ quote ∧ isLineEnd octet = false

/-- Places at which no field is open. -/
def IsStart (place : Place) : Prop := place = .recordStart ∨ place = .fieldStart

/-! ## One octet -/

theorem leads_plain (plain : IsPlain octet) (outside : IsStart place ∨ place = .plain) :
    Leads ⟨place, field, fields, rows⟩ [octet] ⟨.plain, octet :: field, fields, rows⟩ := by
  rintro ⟨_, _, _, _, _, _, _⟩ ⟨⟩
  obtain ⟨no_comma, no_quote, no_end⟩ := plain
  rcases outside with (rfl | rfl) | rfl <;>
    simp [step, stepStart, stepPlain, push, stand, no_comma, no_quote, no_end]

theorem leads_open (start : IsStart place) :
    Leads ⟨place, field, fields, rows⟩ [quote] ⟨.quoted, field, fields, rows⟩ := by
  rintro ⟨_, _, _, _, _, _, _⟩ ⟨⟩
  rcases start with rfl | rfl <;> rfl

theorem leads_quoted (other : octet ≠ quote) :
    Leads ⟨.quoted, field, fields, rows⟩ [octet] ⟨.quoted, octet :: field, fields, rows⟩ := by
  rintro ⟨_, _, _, _, _, _, _⟩ ⟨⟩
  simp [step, push, stand, other]

theorem leads_close :
    Leads ⟨.quoted, field, fields, rows⟩ [quote] ⟨.afterQuote, field, fields, rows⟩ := by
  rintro ⟨_, _, _, _, _, _, _⟩ ⟨⟩
  rfl

theorem leads_doubled :
    Leads ⟨.quoted, field, fields, rows⟩ [quote, quote]
      ⟨.quoted, quote :: field, fields, rows⟩ := by
  rintro ⟨_, _, _, _, _, _, _⟩ ⟨⟩
  rfl

theorem leads_comma (outside : place ≠ .quoted) :
    Leads ⟨place, field, fields, rows⟩ [comma]
      ⟨.fieldStart, [], field.reverse :: fields, rows⟩ := by
  cases place with
  | quoted => exact absurd rfl outside
  | _ =>
      rintro ⟨_, _, _, _, _, _, _⟩ ⟨⟩
      rfl

theorem leads_lineFeed (outside : place ≠ .quoted) (started : place ≠ .recordStart) :
    Leads ⟨place, field, fields, rows⟩ [lineFeed]
      ⟨.recordStart, [], [], (field.reverse :: fields).reverse :: rows⟩ := by
  cases place with
  | quoted => exact absurd rfl outside
  | recordStart => exact absurd rfl started
  | _ =>
      rintro ⟨_, _, _, _, _, _, _⟩ ⟨⟩
      rfl

/-! ## One field -/

/-- An octet below 0x80 stands for one character only. -/
theorem eq_of_mem_utf8EncodeChar {c d : Char} (h : octet ∈ String.utf8EncodeChar c)
    (same : octet.toNat = d.toNat) (small : octet.toNat < 0x80) : c = d := by
  rcases Utf8.mem_utf8EncodeChar h with number | ⟨_, large⟩
  · rw [← Char.ofNat_toNat c, ← number, same, Char.ofNat_toNat]
  · omega

/-- Characters that a field without quotes can hold are made of plain octets. -/
theorem isPlain_of_mem {c : Char} (h : isSpecial c = false)
    (hb : octet ∈ String.utf8EncodeChar c) : IsPlain octet := by
  simp only [isSpecial, Bool.or_eq_false_iff, beq_eq_false_iff_ne] at h
  obtain ⟨⟨⟨no_comma, no_quote⟩, no_return⟩, no_feed⟩ := h
  refine ⟨?_, ?_, ?_⟩
  · rintro rfl
    exact no_comma (eq_of_mem_utf8EncodeChar hb rfl (by decide))
  · rintro rfl
    exact no_quote (eq_of_mem_utf8EncodeChar hb rfl (by decide))
  · rw [isLineEnd, Bool.or_eq_false_iff, beq_eq_false_iff_ne, beq_eq_false_iff_ne]
    constructor
    · rintro rfl
      exact no_feed (eq_of_mem_utf8EncodeChar hb rfl (by decide))
    · rintro rfl
      exact no_return (eq_of_mem_utf8EncodeChar hb rfl (by decide))

theorem leads_plain_octets (plain : ∀ b ∈ octets, IsPlain b) (start : IsStart place)
    (more : octets ≠ []) :
    Leads ⟨place, [], fields, rows⟩ octets ⟨.plain, octets.reverse, fields, rows⟩ := by
  induction octets using List.reverseRecOn with
  | nil => exact absurd rfl more
  | append_singleton front b ih =>
      obtain ⟨before, last⟩ := List.forall_mem_append.mp plain
      have plain_b := last b List.mem_cons_self
      rw [List.reverse_append, List.reverse_singleton, List.singleton_append]
      by_cases first : front = []
      · subst first
        exact leads_plain plain_b (.inl start)
      · exact (ih before first).append (leads_plain plain_b (.inr rfl))

theorem leads_quoted_octets (other : ∀ b ∈ octets, b ≠ quote) :
    Leads ⟨.quoted, field, fields, rows⟩ octets
      ⟨.quoted, octets.reverse ++ field, fields, rows⟩ := by
  induction octets generalizing field with
  | nil => exact Leads.nil _
  | cons b octets ih =>
      obtain ⟨other_b, rest⟩ := List.forall_mem_cons.mp other
      rw [List.reverse_cons, List.append_assoc, List.singleton_append]
      exact (leads_quoted other_b).append (ih rest)

/-- Inside of quotes the octets of a text with doubled quotes are those of the text. -/
theorem leads_doubleQuotes (cs : List Char) :
    Leads ⟨.quoted, field, fields, rows⟩ ((doubleQuotes cs).flatMap String.utf8EncodeChar)
      ⟨.quoted, (cs.flatMap String.utf8EncodeChar).reverse ++ field, fields, rows⟩ := by
  induction cs generalizing field with
  | nil => exact Leads.nil _
  | cons c cs ih =>
      rw [List.flatMap_cons, List.reverse_append, List.append_assoc, doubleQuotes]
      by_cases h : c = '"'
      · subst h
        rw [if_pos rfl]
        exact leads_doubled.append ih
      · rw [if_neg h, List.flatMap_cons]
        refine (leads_quoted_octets fun b hb => ?_).append ih
        rintro rfl
        exact h (eq_of_mem_utf8EncodeChar hb rfl (by decide))

/-- A field is read as the text it was written for, up to a place from which a comma or the end of
the line ends it. Only an empty field at the start of a record leaves the reader there. -/
theorem leads_field (fields : List (List UInt8)) (rows : List (List (List UInt8)))
    (start : IsStart place) (s : String) :
    ∃ place', place' ≠ .quoted ∧ (place' = .recordStart → place = .recordStart ∧ s = "") ∧
      Leads ⟨place, [], fields, rows⟩ (Utf8.encode (Csv.field s))
        ⟨place', (Utf8.encode s).reverse, fields, rows⟩ := by
  unfold Csv.field
  by_cases special : s.toList.any isSpecial = true
  · rw [if_pos special, Utf8.encode_eq, String.toList_ofList, Utf8.encode_eq]
    refine ⟨.afterQuote, nofun, nofun, ?_⟩
    have inside : Leads ⟨.quoted, [], fields, rows⟩ _ _ := leads_doubleQuotes s.toList
    rw [List.append_nil] at inside
    rw [List.flatMap_cons, List.flatMap_append, List.flatMap_singleton]
    exact (leads_open start).append (inside.append leads_close)
  · rw [if_neg special]
    by_cases empty : s = ""
    · subst empty
      refine ⟨place, ?_, fun h => ⟨h, rfl⟩, ?_⟩
      · rcases start with rfl | rfl <;> exact nofun
      · rw [Utf8.encode_empty]
        exact Leads.nil _
    · refine ⟨.plain, nofun, nofun, leads_plain_octets ?_ start ?_⟩
      · intro b hb
        rw [Utf8.encode_eq] at hb
        obtain ⟨c, hc, hb⟩ := List.mem_flatMap.mp hb
        refine isPlain_of_mem ?_ hb
        by_contra h
        exact special (List.any_eq_true.mpr ⟨c, hc, by simpa using h⟩)
      · exact mt Utf8.encode_eq_nil_iff.mp empty

/-! ## Records -/

theorem encode_comma : Utf8.encode "," = [comma] := by
  rw [Utf8.encode_eq]
  rfl

theorem encode_lineFeed : Utf8.encode "\n" = [lineFeed] := by
  rw [Utf8.encode_eq]
  rfl

theorem leads_record (start : IsStart place) (first : String) (rest : List String)
    (visible : place = .recordStart → first = "" → rest ≠ []) :
    Leads ⟨place, [], fields, rows⟩ (Utf8.encode (record (first :: rest)))
      ⟨.recordStart, [], [], (fields.reverse ++ (first :: rest).map Utf8.encode) :: rows⟩ := by
  induction rest generalizing place first fields with
  | nil =>
      obtain ⟨place', outside, started, field⟩ := leads_field fields rows start first
      have ended : Leads ⟨place', (Utf8.encode first).reverse, fields, rows⟩ _ _ :=
        leads_lineFeed outside fun h => visible (started h).1 (started h).2 rfl
      have line : Utf8.encode (record [first]) = Utf8.encode (Csv.field first) ++ [lineFeed] := by
        rw [record, List.map_singleton, String.intercalate_singleton, Utf8.encode_append,
          encode_lineFeed]
      rw [line]
      simpa using field.append ended
  | cons second rest ih =>
      obtain ⟨place', outside, _, field⟩ := leads_field fields rows start first
      have ended : Leads ⟨place', (Utf8.encode first).reverse, fields, rows⟩ _ _ :=
        leads_comma outside
      have line : Utf8.encode (record (first :: second :: rest)) =
          Utf8.encode (Csv.field first) ++ [comma] ++ Utf8.encode (record (second :: rest)) := by
        rw [record, List.map_cons, List.map_cons, String.intercalate_cons_cons, String.append_assoc,
          ← List.map_cons, ← record, Utf8.encode_append, Utf8.encode_append, encode_comma]
      rw [line]
      have others : Leads ⟨.fieldStart, [], Utf8.encode first :: fields, rows⟩ _ _ :=
        ih (.inr rfl) second nofun
      rw [List.reverse_reverse] at ended
      simpa using (field.append ended).append others

/-- A record that is no empty line. -/
def Visible (record : List String) : Prop := record ≠ [] ∧ record ≠ [""]

theorem leads_records {table : List (List String)} (visible : ∀ r ∈ table, Visible r) :
    Leads ⟨.recordStart, [], [], rows⟩ (Utf8.encode (String.join (table.map record)))
      ⟨.recordStart, [], [], (table.map (·.map Utf8.encode)).reverse ++ rows⟩ := by
  induction table generalizing rows with
  | nil =>
      rw [List.map_nil, String.join_nil, Utf8.encode_empty]
      exact Leads.nil _
  | cons r table ih =>
      obtain ⟨visible_r, others⟩ := List.forall_mem_cons.mp visible
      rw [List.map_cons, String.join_cons, Utf8.encode_append, List.map_cons, List.reverse_cons,
        List.append_assoc, List.singleton_append]
      cases r with
      | nil => exact absurd rfl visible_r.1
      | cons first rest =>
          refine (leads_record (.inl rfl) first rest ?_).append (ih others)
          rintro - rfl rfl
          exact visible_r.2 rfl

end Splitter

/-! ## Tables -/

/-- The octets hold a table of texts, the header among its records. -/
def Holds (octets : List UInt8) (table : List (List String)) : Prop :=
  (records octets).map (fun r => r.fields.map Utf8.decode?) = table.map (·.map .ok)

instance (octets : List UInt8) (table : List (List String)) : Decidable (Holds octets table) :=
  inferInstanceAs (Decidable (_ = _))

/-- Fields become text exactly as they are read one by one. -/
theorem textFields_eq_ok_iff {position : Position} {number : Nat} {fields : List (List UInt8)}
    {cells : List String} : textFields position number fields = .ok cells ↔
      fields.map Utf8.decode? = cells.map .ok := by
  induction fields generalizing number cells with
  | nil => cases cells <;> simp [textFields]
  | cons octets fields ih =>
      rw [textFields, List.map_cons]
      cases first : Utf8.decode? octets with
      | error index => cases cells <;> simp
      | ok cell =>
          cases cells with
          | nil => cases textFields position (number + 1) fields <;> simp [Except.map]
          | cons cell' rest =>
              rw [List.map_cons, List.cons.injEq, ← @ih (number + 1)]
              cases textFields position (number + 1) fields <;> simp [Except.map]

theorem exists_textFields_trimOctets (position : Position) {fields : List (List UInt8)}
    {cells : List String} (h : fields.map Utf8.decode? = cells.map .ok) :
    ∃ trimmed, textFields position 0 (fields.map trimOctets) = .ok trimmed ∧
      trimmed.map trim = cells.map trim := by
  simp only [textFields_eq_ok_iff]
  induction fields generalizing cells with
  | nil =>
      obtain rfl := List.map_eq_nil_iff.mp h.symm
      exact ⟨[], rfl, rfl⟩
  | cons octets fields ih =>
      obtain ⟨cell, cells, rfl, first, rest⟩ := List.map_eq_cons_iff.mp h.symm
      obtain ⟨trimmed, ht, same⟩ := decode?_trimOctets first.symm
      obtain ⟨others, ho, same'⟩ := ih rest.symm
      refine ⟨trimmed :: others, ?_, ?_⟩
      · rw [List.map_cons, List.map_cons, List.map_cons, ht, ho]
      · rw [List.map_cons, List.map_cons, same, same']

theorem dropMark_encode {s : String} (unmarked : s.toList.head? ≠ some '\ufeff') :
    dropMark (Utf8.encode s) = (0, Utf8.encode s) := by
  unfold dropMark
  split
  next rest marked =>
    have read := Utf8.pieces_encode s
    rw [marked, show 0xEF :: 0xBB :: 0xBF :: rest = String.utf8EncodeChar '\ufeff' ++ rest from rfl,
      Utf8.pieces_utf8EncodeChar_append] at read
    obtain ⟨c, _, parts, first, _⟩ := List.map_eq_cons_iff.mp read.symm
    rw [parts, Option.some.inj first] at unmarked
    exact absurd rfl unmarked
  · rfl

/-- Only what a table begins with can be taken for a mark. -/
theorem unmarked_join_record {header : List String} (rows : List (List String))
    (unmarked : (record header).toList.head? ≠ some '\ufeff') :
    (String.join ((header :: rows).map record)).toList.head? ≠ some '\ufeff' := by
  have some_char : (record header).toList ≠ [] := by simp [record]
  rwa [List.map_cons, String.join_cons, String.toList_append,
    List.head?_append_of_ne_nil _ some_char]

/-- What is written as records is read as these records. -/
theorem holds_join_record {table : List (List String)} (visible : ∀ r ∈ table, Splitter.Visible r)
    (unmarked : (String.join (table.map record)).toList.head? ≠ some '\ufeff') :
    Holds (Utf8.encode (String.join (table.map record))) table := by
  have leads : Splitter.Leads ⟨.recordStart, [], [], []⟩ _ _ := Splitter.leads_records visible
  have read := leads ⟨.recordStart, [], [], [], ⟨0, 1, 0⟩, 1, 0⟩ rfl
  unfold Holds records
  rw [dropMark_encode unmarked]
  dsimp only
  generalize List.foldl _ _ _ = s at read ⊢
  obtain ⟨place, field, fields, rows, began, line, byte⟩ := s
  obtain ⟨rfl, -, -, rows_eq⟩ := Stand.mk.inj read
  have fields_eq : rows.reverse.map (·.fields) = table.map (·.map Utf8.encode) := by
    rw [List.map_reverse, rows_eq, List.append_nil, List.reverse_reverse]
  calc rows.reverse.map (fun r => r.fields.map Utf8.decode?)
      = (rows.reverse.map (·.fields)).map (·.map Utf8.decode?) := by rw [List.map_map]; rfl
    _ = table.map (·.map .ok) := by
        rw [fields_eq, List.map_map]
        refine List.map_congr_left fun r _ => ?_
        rw [Function.comp_apply, List.map_map]
        exact List.map_congr_left fun s _ => Utf8.decode?_encode s

theorem table_eq_empty_iff {header : List String} {rows : List (List String)} :
    table header rows = "" ↔ rows = [] := by
  unfold table
  cases rows with
  | nil => simp
  | cons first rest => simp [record]

/-- A table is read with its header and all its rows, or it is empty. -/
theorem holds_table {header : List String} {rows : List (List String)}
    (visible : ∀ r ∈ header :: rows, Splitter.Visible r)
    (unmarked : (record header).toList.head? ≠ some '\ufeff') :
    Holds (Utf8.encode (table header rows)) (if rows = [] then [] else header :: rows) := by
  unfold table
  cases rows with
  | nil =>
      rw [List.isEmpty_nil, if_pos rfl, if_pos rfl, Utf8.encode_empty]
      rfl
  | cons first rest => exact holds_join_record visible (unmarked_join_record _ unmarked)

end Speedup.Csv
