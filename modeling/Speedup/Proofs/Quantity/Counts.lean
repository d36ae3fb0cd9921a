import Speedup.Proofs.Quantity.Reading
import Speedup.Quantity.Scale

/-!
# Which values are counts

A value and the text of its unit are put together and read as one text, so a unit that begins with
characters of a number is read on as a part of the value. A value in such a unit is a time or a size
also where the unit has no name of one: `e3` is read as an exponent, and no unit at all as seconds.
A value is a count exactly where no front of the unit, not even an empty one, continues the number
in such a way that the name of a unit is left (`ofValue_eq_count_iff`). So only units that begin
apart from numbers are told by their names alone (`ofValue_of_apart`).
-/

namespace Speedup.Quantity

open Decimal

variable {value : Double} {unit : String} {d : Decimal} {cs : List Char} {q : Quantity}

/-! ## What a unit continues -/

/-- A unit behind a value is read as one of time: its front continues the number, and what is left
is the name of a unit or nothing. -/
def ReadsAsTime (value : Double) (unit : String) : Prop :=
  ∃ more name d, unit.toList = more ++ name ∧ TimeNumber (body value ++ more) d ∧
    (value.negative = true → d.digits = 0) ∧ String.ofList name ∈ timeUnits.map (·.name)

/-- A unit behind a value is read as one of data: its front continues the number, and what is left
behind blanks is the name of a unit in letters of either case. -/
def ReadsAsSize (value : Double) (unit : String) : Prop :=
  value.negative = false ∧ ∃ more blanks name d, (sizeName unit).toList = more ++ (blanks ++ name) ∧
    Mantissa (body value ++ more) d ∧ (∀ c ∈ blanks, Text.isBlank c = true) ∧
    Text.lower (String.ofList name) ∈ sizeUnits.map (·.1)

/-- Where a number is followed by something that does not begin like one, a front of the number is
continued up to its end. -/
theorem exists_more {front number name rest : List Char} (same : number ++ name = front ++ rest)
    (numeric : ∀ c ∈ front, isNumeric c = true)
    (stop : ∀ c, name.head? = some c → isNumeric c = false) :
    ∃ more, number = front ++ more ∧ rest = more ++ name := by
  rcases List.append_eq_append_iff.mp same with ⟨extra, longer, left⟩ | ⟨more, longer, left⟩
  · cases extra with
    | nil =>
        rw [List.append_nil] at longer
        exact ⟨[], by rw [longer, List.append_nil], left.symm⟩
    | cons c extra =>
        have first := stop c (by rw [left]; rfl)
        rw [numeric c (by rw [longer]; simp)] at first
        cases first
  · exact ⟨more, longer, left⟩

section Body

variable (finite : value.isFinite = true)

include finite

theorem numeral_body : ∃ d, Numeral (body value) d :=
  (exists_numeral_body (of_decide_eq_true finite)).imp fun _ h => h.1

theorem isNumeric_of_mem_body {c : Char} (hc : c ∈ body value) : isNumeric c = true := by
  obtain ⟨d, numeral⟩ := numeral_body finite
  exact Bool.or_eq_true_iff.mpr ((numeral.isDigit_or_eq hc).imp_right beq_iff_eq.mpr)

theorem toList_text : (Style.plain.text value).toList =
    if value.negative then '-' :: body value else body value := by
  have number : value.isNaN = false := decide_eq_false (of_decide_eq_true finite).not_gt
  rw [text_plain number, String.toList_ofList]

end Body

/-- Only a zero can have a sign and not be below zero. -/
theorem body_of_negative (finite : value.isFinite = true) (negative : value.negative = true)
    (nonneg : value.lt 0 = false) : body value = ['0'] := by
  have number : value.isNaN = false := decide_eq_false (of_decide_eq_true finite).not_gt
  have zero : value.isZero = true := by
    have not_below : ¬ value.place < Double.place 0 := by
      simpa [Double.lt, number, show Double.isNaN 0 = false by decide] using nonneg
    have origin : Double.place 0 = 0 := by decide
    rw [origin, Double.place, if_pos negative] at not_below
    exact beq_iff_eq.mpr (by omega)
  have bounded : value.isInfinite = false := beq_false_of_ne (of_decide_eq_true finite).ne
  rw [body, bounded, if_neg Bool.false_ne_true, if_pos zero]

/-! ## Times -/

theorem signed_inj {n n' : Bool} {a b : List Char}
    (ha : ∃ c more, a = c :: more ∧ c.isDigit = true)
    (hb : ∃ c more, b = c :: more ∧ c.isDigit = true)
    (same : (if n then '-' :: a else a) = if n' then '-' :: b else b) : n = n' ∧ a = b := by
  obtain ⟨c, more, rfl, digit⟩ := ha
  obtain ⟨c', more', rfl, digit'⟩ := hb
  have split := congrArg splitMinus same
  rw [splitMinus_of_isDigit digit, splitMinus_of_isDigit digit'] at split
  exact Prod.mk.inj split

theorem signed_append (n : Bool) (a b : List Char) :
    (if n then '-' :: a else a) ++ b = if n then '-' :: (a ++ b) else a ++ b := by
  cases n <;> rfl

/-- A value directly before its unit is a time if the unit is read as one of time. -/
theorem exists_denotesTime_iff (finite : value.isFinite = true) :
    (∃ q, DenotesTime (Style.plain.text value ++ unit).toList q) ↔ ReadsAsTime value unit := by
  have first {cs rest : List Char} (h : ∃ c more, cs = c :: more ∧ c.isDigit = true) :
      ∃ c more, cs ++ rest = c :: more ∧ c.isDigit = true := by
    obtain ⟨c, more, rfl, digit⟩ := h
    exact ⟨c, more ++ rest, rfl, digit⟩
  rw [String.toList_append, toList_text finite]
  constructor
  · rintro ⟨q, h⟩
    generalize whole : (if value.negative then '-' :: body value else body value) ++ unit.toList =
      cs at h
    obtain @⟨negative, number, d, u, written, allowed, listed⟩ := h
    obtain ⟨_, numeral⟩ := numeral_body finite
    rw [signed_append, signed_append] at whole
    obtain ⟨sign, same⟩ := signed_inj (first numeral.exists_cons) (first written.head) whole
    have stop : ∀ c, u.name.toList.head? = some c → isNumeric c = false := by
      intro c hc
      obtain ⟨no_digit, other⟩ := head_name listed c hc
      rw [isNumeric, no_digit, Bool.false_or]
      exact beq_false_of_ne fun point => other (by simp [point])
    obtain ⟨more, rfl, rest⟩ := exists_more same.symm (fun _ => isNumeric_of_mem_body finite) stop
    refine ⟨more, _, d, rest, written, sign ▸ allowed, ?_⟩
    rw [String.ofList_toList]
    exact List.mem_map_of_mem listed
  · rintro ⟨more, name, d, rest, written, allowed, known⟩
    obtain ⟨u, listed, named⟩ := List.mem_map.mp known
    have ending : u.name.toList = name := by rw [named, String.toList_ofList]
    have denotes := DenotesTime.mk written allowed listed
    rw [signed_append, ending, List.append_assoc, ← rest, ← signed_append] at denotes
    exact ⟨_, denotes⟩

theorem DenotesTime.blank_notMem (h : DenotesTime cs q) : ' ' ∉ cs := by
  obtain @⟨negative, number, d, u, written, _, listed⟩ := h
  have names : timeUnits.all fun u => !u.name.toList.contains ' ' := by decide
  have name : ' ' ∉ u.name.toList := by simpa using List.all_eq_true.mp names u listed
  have no_blank : ' ' ∉ number := by
    intro blank
    exact absurd (written.mem blank) (by decide)
  cases negative <;> simp [name, no_blank]

/-- A blank between a value and its unit does not make it a time. -/
theorem findSome?_readDuration?_iff (finite : value.isFinite = true) :
    (writings value unit).findSome? readDuration? = none ↔ ¬ ReadsAsTime value unit := by
  have blank : ¬ ∃ q, DenotesTime (Style.plain.text value ++ " " ++ unit).toList q := by
    rintro ⟨q, denotes⟩
    exact denotes.blank_notMem (by simp)
  rw [← exists_denotesTime_iff finite, writings, List.findSome?_eq_none_iff, List.forall_mem_cons,
    List.forall_mem_singleton, readDuration?_eq_none_iff, readDuration?_eq_none_iff]
  exact and_iff_left blank

/-! ## Sizes -/

theorem toList_text_of_not_negative (finite : value.isFinite = true)
    (positive : value.negative = false) (rest : String) :
    (Style.plain.text value ++ rest).toList = body value ++ rest.toList := by
  rw [String.toList_append, toList_text finite, positive]
  rfl

theorem not_sizeText_minus (cs : List Char) : ¬ SizeText ('-' :: cs) := by
  intro h
  generalize whole : '-' :: cs = text at h
  cases h with
  | bytes _ digits _ =>
      subst whole
      exact absurd (digits '-' List.mem_cons_self) (by decide)
  | scaled mantissa _ _ =>
      obtain ⟨c, more, rfl, first⟩ := mantissa.head
      cases whole
      exact absurd first (by decide)

theorem head_blanks_sizeName {blanks name : List Char}
    (blank : ∀ c ∈ blanks, Text.isBlank c = true)
    (listed : Text.lower (String.ofList name) ∈ sizeUnits.map (·.1)) :
    ∀ c, (blanks ++ name).head? = some c → isNumeric c = false := by
  intro c first
  cases blanks with
  | nil =>
      obtain ⟨_, _, rfl, other, _⟩ := head_sizeName listed
      cases first
      exact other
  | cons b rest =>
      cases first
      exact isNumeric_of_isBlank (blank _ List.mem_cons_self)

/-- A number alone is a time in seconds. -/
theorem readsAsTime_of_digits (finite : value.isFinite = true) (positive : value.negative = false)
    (digits : ∀ c ∈ body value ++ unit.toList, c.isDigit = true) : ReadsAsTime value unit := by
  obtain ⟨_, numeral⟩ := numeral_body finite
  obtain ⟨c, more, first, _⟩ := numeral.exists_cons
  refine ⟨unit.toList, [], _, (List.append_nil _).symm, .plain (.whole ?_ digits), ?_, by decide⟩
  · rw [first]
    exact List.cons_ne_nil _ _
  · rw [positive]
    exact nofun

/-- What follows a value that is a size is the rest of a whole number of bytes, or the rest of a
number, blanks and the name of a unit. -/
theorem rest_of_sizeText (finite : value.isFinite = true) {rest : String}
    (h : SizeText (Style.plain.text value ++ rest).toList) :
    value.negative = false ∧ ((∀ c ∈ body value ++ rest.toList, c.isDigit = true) ∨
      ∃ more blanks name d, rest.toList = more ++ (blanks ++ name) ∧
        Mantissa (body value ++ more) d ∧ (∀ c ∈ blanks, Text.isBlank c = true) ∧
        Text.lower (String.ofList name) ∈ sizeUnits.map (·.1)) := by
  cases sign : value.negative with
  | true =>
      rw [String.toList_append, toList_text finite, sign, if_pos rfl] at h
      exact absurd h (not_sizeText_minus _)
  | false =>
      rw [toList_text_of_not_negative finite sign] at h
      refine ⟨rfl, ?_⟩
      generalize whole : body value ++ rest.toList = cs at h ⊢
      cases h with
      | bytes _ digits _ => exact .inl digits
      | @scaled number blanks name d mantissa blank listed =>
          rw [List.append_assoc] at whole
          obtain ⟨more, rfl, parts⟩ := exists_more whole.symm
            (fun _ => isNumeric_of_mem_body finite) (head_blanks_sizeName blank listed)
          exact .inr ⟨more, blanks, name, d, parts, mantissa, blank, listed⟩

/-- A value directly before its unit is a size only if the unit is read as one, or if it is read as
one of time. -/
theorem readsAs_of_sizeText (finite : value.isFinite = true)
    (h : SizeText (Style.plain.text value ++ sizeName unit).toList) :
    ReadsAsTime value unit ∨ ReadsAsSize value unit := by
  obtain ⟨sign, digits | size⟩ := rest_of_sizeText finite h
  · unfold sizeName at digits
    split at digits
    · exact absurd (digits 'B' (by simp)) (by decide)
    · exact .inl (readsAsTime_of_digits finite sign digits)
  · exact .inr ⟨sign, size⟩

/-- A blank between a value and its unit makes it a size only if it is one without. -/
theorem readsAsSize_of_blank (finite : value.isFinite = true)
    (h : SizeText (Style.plain.text value ++ " " ++ sizeName unit).toList) :
    ReadsAsSize value unit := by
  rw [String.append_assoc] at h
  obtain ⟨sign, digits | ⟨more, blanks, name, d, parts, mantissa, blank, listed⟩⟩ :=
    rest_of_sizeText finite h
  · exact absurd (digits ' ' (by simp)) (by decide)
  rw [String.toList_append, show " ".toList = [' '] from rfl, List.singleton_append] at parts
  -- The blank belongs neither to the number nor to the name, so it is the first of the blanks.
  cases more with
  | cons c more =>
      cases (List.cons.inj parts).1
      have inside := isNumeric_of_mem_mantissa mantissa (c := ' ') (by simp)
      exact absurd inside (by decide)
  | nil =>
      cases blanks with
      | nil =>
          obtain ⟨_, _, rfl, _, no_blank⟩ := head_sizeName listed
          cases (List.cons.inj parts).1
          exact absurd no_blank (by decide)
      | cons b blanks =>
          have others := fun c hc => blank c (List.mem_cons_of_mem b hc)
          exact ⟨sign, [], blanks, name, d, (List.cons.inj parts).2, mantissa, others, listed⟩

theorem sizeText_of_readsAsSize (finite : value.isFinite = true) (h : ReadsAsSize value unit) :
    SizeText (Style.plain.text value ++ sizeName unit).toList := by
  obtain ⟨sign, more, blanks, name, d, rest, mantissa, blank, listed⟩ := h
  have size := SizeText.scaled mantissa blank listed
  rwa [List.append_assoc, List.append_assoc, ← rest,
    ← toList_text_of_not_negative finite sign] at size

/-- If it is no time, a value is a size exactly if its unit is read as one. -/
theorem findSome?_readSize?_iff (finite : value.isFinite = true)
    (no_time : ¬ ReadsAsTime value unit) :
    (writings value (sizeName unit)).findSome? readSize? = none ↔ ¬ ReadsAsSize value unit := by
  rw [writings, List.findSome?_eq_none_iff, List.forall_mem_cons, List.forall_mem_singleton,
    readSize?_eq_none_iff, readSize?_eq_none_iff]
  constructor
  · rintro ⟨direct, _⟩ size
    exact direct (sizeText_of_readsAsSize finite size)
  · intro no_size
    refine ⟨fun direct => ?_, fun apart => no_size (readsAsSize_of_blank finite apart)⟩
    rcases readsAs_of_sizeText finite direct with time | size
    · exact no_time time
    · exact no_size size

/-! ## Counts -/

theorem readDuration?_ne_count {text : String} (x : Double) :
    readDuration? text ≠ some (.count x) := by
  intro read
  have denotes := readDuration?_eq_some_iff.mp read
  generalize text.toList = cs at denotes
  generalize count : Quantity.count x = q at denotes
  cases denotes with
  | mk _ _ _ =>
      unfold durationOf at count
      dsimp only at count
      split at count <;> cases count

theorem readSize?_ne_count {text : String} (x : Double) : readSize? text ≠ some (.count x) := by
  intro read
  unfold readSize? at read
  dsimp only at read
  split at read
  · cases read
  · split at read
    · cases read
    · obtain ⟨n, _, size⟩ := Option.map_eq_some_iff.mp read
      cases size

theorem ofValue_eq (finite : value.isFinite = true) (nonneg : value.lt 0 = false) :
    ofValue value unit = ((writings value unit).findSome? readDuration? <|>
      (writings value (sizeName unit)).findSome? readSize?).getD (.count value) := by
  rw [ofValue, finite, nonneg]
  rfl

/-- A value is a count exactly if its unit is read neither as one of time nor as one of data. -/
theorem ofValue_eq_count_iff (finite : value.isFinite = true) (nonneg : value.lt 0 = false) :
    ofValue value unit = .count value ↔ ¬ ReadsAsTime value unit ∧ ¬ ReadsAsSize value unit := by
  rw [ofValue_eq finite nonneg, ← findSome?_readDuration?_iff finite]
  cases time : (writings value unit).findSome? readDuration? with
  | some q =>
      obtain ⟨text, _, read⟩ := List.exists_of_findSome?_eq_some time
      have other : q ≠ .count value := by
        rintro rfl
        exact readDuration?_ne_count value read
      simp [other]
  | none =>
      have no_time := (findSome?_readDuration?_iff finite).mp time
      rw [← findSome?_readSize?_iff finite no_time]
      cases size : (writings value (sizeName unit)).findSome? readSize? with
      | some q =>
          obtain ⟨text, _, read⟩ := List.exists_of_findSome?_eq_some size
          have other : q ≠ .count value := by
            rintro rfl
            exact readSize?_ne_count value read
          simp [other]
      | none => simp

/-- Without a unit a value is a time. -/
theorem readsAsTime_empty (finite : value.isFinite = true) (nonneg : value.lt 0 = false) :
    ReadsAsTime value "" := by
  obtain ⟨d, numeral⟩ := numeral_body finite
  refine ⟨[], [], d, rfl, .plain (by rwa [List.append_nil]), fun negative => ?_, by decide⟩
  rw [body_of_negative finite negative nonneg] at numeral
  generalize zero : ['0'] = cs at numeral
  cases numeral with
  | whole _ _ =>
      subst zero
      rfl
  | @pointed ds fraction some _ _ =>
      obtain ⟨c, ds, rfl⟩ := List.exists_cons_of_ne_nil some
      simp at zero

/-! ## Units apart from numbers -/

/-- A unit that begins with nothing a number could be continued with, nor with a blank. -/
def Apart (unit : String) : Prop :=
  ∃ c more, unit.toList = c :: more ∧ c.isDigit = false ∧ c ∉ ['.', 'e', 'E'] ∧
    Text.isBlank c = false

theorem Apart.sizeName (apart : Apart unit) : Apart (sizeName unit) := by
  unfold Quantity.sizeName
  split
  · exact ⟨'B', [], rfl, by decide⟩
  · exact apart

/-- The number of a time is continued by digits, a point or the letter of an exponent. -/
theorem head_of_timeNumber (finite : value.isFinite = true) {c : Char} {more : List Char}
    (h : TimeNumber (body value ++ c :: more) d) : c.isDigit = true ∨ c ∈ ['.', 'e', 'E'] := by
  have inside {cs : List Char} {d : Decimal} (numeral : Numeral cs d) (hc : c ∈ cs) :
      c.isDigit = true ∨ c ∈ ['.', 'e', 'E'] :=
    (numeral.isDigit_or_eq hc).imp_right fun point => by simp [point]
  generalize whole : body value ++ c :: more = cs at h
  cases h with
  | plain numeral => exact inside numeral (by simp [← whole])
  | @scaled number exponent d e k numeral letter _ _ =>
      have stop : ∀ c, (e :: exponent).head? = some c → isNumeric c = false := by
        rintro _ ⟨⟩
        rcases letter with rfl | rfl <;> decide
      obtain ⟨digits, rfl, rest⟩ :=
        exists_more whole.symm (fun _ => isNumeric_of_mem_body finite) stop
      cases digits with
      | nil =>
          cases rest
          exact .inr (by rcases letter with rfl | rfl <;> simp)
      | cons b digits =>
          cases rest
          exact inside numeral (by simp)

/-- Apart from numbers a unit is one of time by its name. -/
theorem Apart.mem_timeUnits (apart : Apart unit) (finite : value.isFinite = true)
    (time : ReadsAsTime value unit) : unit ∈ timeUnits.map (·.name) := by
  obtain ⟨c, rest, chars, no_digit, other, _⟩ := apart
  obtain ⟨more, name, d, parts, written, _, listed⟩ := time
  cases more with
  | nil => rwa [← String.ofList_toList (s := unit), parts]
  | cons c' more =>
      cases chars.symm.trans parts
      rcases head_of_timeNumber finite written with digit | front
      · rw [no_digit] at digit
        cases digit
      · exact absurd front other

/-- Apart from numbers a unit is one of data by its name. -/
theorem Apart.mem_sizeUnits (apart : Apart unit) (size : ReadsAsSize value unit) :
    Text.lower (Quantity.sizeName unit) ∈ sizeUnits.map (·.1) := by
  obtain ⟨c, rest, chars, no_digit, other, no_blank⟩ := apart.sizeName
  obtain ⟨_, more, blanks, name, d, parts, mantissa, blank, listed⟩ := size
  cases more with
  | cons c' more =>
      cases chars.symm.trans parts
      have numeric : isNumeric c = true := isNumeric_of_mem_mantissa mantissa (by simp)
      rw [isNumeric, no_digit, Bool.false_or, beq_iff_eq] at numeric
      exact absurd (by simp [numeric]) other
  | nil =>
      cases blanks with
      | cons b blanks =>
          cases chars.symm.trans parts
          rw [blank c List.mem_cons_self] at no_blank
          cases no_blank
      | nil => rwa [← String.ofList_toList (s := Quantity.sizeName unit), parts]

theorem ofValue_of_apart (finite : value.isFinite = true) (nonneg : value.lt 0 = false)
    (apart : Apart unit) (no_time : unit ∉ timeUnits.map (·.name))
    (no_size : Text.lower (sizeName unit) ∉ sizeUnits.map (·.1)) :
    ofValue value unit = .count value :=
  (ofValue_eq_count_iff finite nonneg).mpr
    ⟨fun time => no_time (apart.mem_timeUnits finite time),
      fun size => no_size (apart.mem_sizeUnits size)⟩

/-- A finite value that is not below zero is a count exactly if no front of its unit continues the
number so that the name of a unit of time or of data is left. So it is one in a custom unit that
begins apart from numbers, and then shown as a plain number, but never without any unit. -/
theorem ofValue_custom (value : Double) (finite : value.isFinite = true)
    (nonneg : value.lt 0 = false) :
    (∀ unit, ofValue value unit = .count value ↔
      ¬ ReadsAsTime value unit ∧ ¬ ReadsAsSize value unit) ∧
    (∀ unit, Apart unit → unit ∉ timeUnits.map (·.name) →
      Text.lower (sizeName unit) ∉ sizeUnits.map (·.1) → ofValue value unit = .count value) ∧
    (∀ unit, ofValue value unit = .count value → (ofValue value unit).humanize =
      Decimal.fixed (if value.fract.isZero then 0 else 3) value) ∧
    ofValue value "" ≠ .count value := by
  refine ⟨fun unit => ofValue_eq_count_iff finite nonneg,
    fun unit => ofValue_of_apart finite nonneg, fun unit count => ?_, fun count => ?_⟩
  · rw [count, humanize]
    split <;> rfl
  · exact ((ofValue_eq_count_iff finite nonneg).mp count).1 (readsAsTime_empty finite nonneg)

/-- A custom unit, no unit, and one that is read as an exponent. -/
theorem ofValue_custom_fortyTwo :
    ofValue 42 "widgets" = .count 42 ∧ ofValue 42 "" ≠ .count 42 ∧
      ofValue 42 "e3" = .duration 42000 0 := by
  obtain ⟨_, custom, _, unitless⟩ := ofValue_custom 42 (by decide +kernel) (by decide +kernel)
  have apart : Apart "widgets" := ⟨'w', "idgets".toList, rfl, by decide⟩
  exact ⟨custom "widgets" apart (by decide) (by decide), unitless, by decide +kernel⟩

end Speedup.Quantity
