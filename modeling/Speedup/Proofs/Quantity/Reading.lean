import Speedup.Proofs.Decimal.Denotation
import Speedup.Proofs.Text.Blank
import Speedup.Quantity.Basic

/-!
# Texts of times and of sizes

The texts that are read as times and as sizes, by grammars that know nothing of a reader. A time is
a numeral with an optional exponent and the name of a unit, which may be absent (`DenotesTime`); a
size is a whole number of bytes, or a mantissa, blanks and the name of a unit in letters of either
case (`SizeText`). The readers accept these texts and no other ones: no name begins like something
that would belong to the number before it, so the number is read to its end and not any further
(`readDuration?_eq_some_iff`, `isSome_readSize?_iff`).
-/

namespace Speedup.Quantity

open Decimal

variable {cs ds front rest : List Char} {d d' : Decimal} {k : ℤ} {text : String} {q : Quantity}

/-! ## Numbers of times -/

/-- A numeral with an optional exponent of sixteen bits. -/
inductive TimeNumber : List Char → Decimal → Prop where
  | plain {cs : List Char} {d : Decimal} : Numeral cs d → TimeNumber cs d
  | scaled {cs more : List Char} {d : Decimal} {e : Char} {k : ℤ} : Numeral cs d →
      e = 'e' ∨ e = 'E' → Whole more k → isShortExponent k = true →
      TimeNumber (cs ++ e :: more) ⟨d.digits, k + d.exponent⟩

/-- What is made of a numeral and what follows it: an exponent after its letter, or else nothing
that would belong to the number. -/
def readShortScale? (d : Decimal) : List Char → Option (Decimal × List Char)
  | [] => some (d, [])
  | c :: more =>
    if c = 'e' || c = 'E' then
      (readExponent? more).bind fun (k, rest) =>
        if isShortExponent k then some (⟨d.digits, k + d.exponent⟩, rest) else none
    else some (d, c :: more)

theorem readShortScale?_letter {c : Char} {more : List Char} (letter : c = 'e' ∨ c = 'E') :
    readShortScale? d (c :: more) = (readExponent? more).bind fun (k, rest) =>
      if isShortExponent k then some (⟨d.digits, k + d.exponent⟩, rest) else none :=
  if_pos (by simpa using letter)

theorem readShortScale?_other (other : ∀ c, rest.head? = some c → ¬ (c = 'e' ∨ c = 'E')) :
    readShortScale? d rest = some (d, rest) := by
  cases rest with
  | nil => rfl
  | cons c more => exact if_neg (by simpa using other c rfl)

theorem readTimeNumber?_of_whole (span : Text.spanDigits cs = (ds, rest))
    (no_point : ∀ more, rest ≠ '.' :: more) : readTimeNumber? cs =
      if ds.isEmpty then none else readShortScale? ⟨Text.digitsValue 0 ds, 0⟩ rest := by
  unfold readTimeNumber?
  rw [span]
  cases rest with
  | nil => simp [readShortScale?]
  | cons c more =>
      cases exponent : readExponent? more <;> simp [readShortScale?, exponent]

theorem readTimeNumber?_of_pointed {more fraction : List Char}
    (span : Text.spanDigits cs = (ds, '.' :: more))
    (behind : Text.spanDigits more = (fraction, rest)) : readTimeNumber? cs =
      if ds.isEmpty then none
      else readShortScale? ⟨Text.digitsValue 0 (ds ++ fraction), -fraction.length⟩ rest := by
  unfold readTimeNumber?
  rw [span]
  simp only [behind]
  cases rest with
  | nil => rfl
  | cons c more =>
      rw [readShortScale?]
      dsimp only
      cases readExponent? more <;> rfl

theorem readTimeNumber?_numeral (h : Numeral front d) (stop : ∀ c, rest.head? = some c →
    c.isDigit = false ∧ c ≠ '.') : readTimeNumber? (front ++ rest) = readShortScale? d rest := by
  have no_digit : ∀ c, rest.head? = some c → c.isDigit = false := fun c hc => (stop c hc).1
  cases h with
  | whole some digits =>
      have no_point : ∀ more, rest ≠ '.' :: more := by
        rintro more rfl
        exact (stop '.' rfl).2 rfl
      have span := Text.spanDigits_append_of_isDigit digits rest no_digit
      rw [readTimeNumber?_of_whole span no_point, if_neg (by simpa using some)]
  | @pointed ds fraction some digits behind =>
      have front := Text.spanDigits_append_of_isDigit digits ('.' :: (fraction ++ rest))
        (by rintro c ⟨⟩; decide)
      have back := Text.spanDigits_append_of_isDigit behind rest no_digit
      rw [List.append_assoc, List.cons_append, readTimeNumber?_of_pointed front back,
        if_neg (by simpa using some)]

/-- Whatever is read begins with a numeral. -/
theorem exists_numeral_of_readTimeNumber? {p : Decimal × List Char}
    (h : readTimeNumber? cs = some p) : ∃ front rest d, cs = front ++ rest ∧ Numeral front d ∧
      readShortScale? d rest = some p := by
  obtain ⟨ds, tail, span, whole, digits⟩ := spanDigits_spec cs
  by_cases point : ∃ more, tail = '.' :: more
  · obtain ⟨more, rfl⟩ := point
    obtain ⟨fraction, rest, back, parts, behind⟩ := spanDigits_spec more
    rw [readTimeNumber?_of_pointed span back] at h
    split at h
    · cases h
    next some =>
      refine ⟨ds ++ '.' :: fraction, rest, _, ?_, .pointed (by simpa using some) digits behind, h⟩
      rw [whole, parts, List.append_assoc, List.cons_append]
  · rw [readTimeNumber?_of_whole span fun more same => point ⟨more, same⟩] at h
    split at h
    · cases h
    next some => exact ⟨ds, tail, _, whole, .whole (by simpa using some) digits, h⟩

/-- What is read of a text is the number of a time. -/
theorem exists_timeNumber_of_read? (h : readTimeNumber? cs = some (d, rest)) :
    ∃ front, cs = front ++ rest ∧ TimeNumber front d := by
  obtain ⟨front, tail, d', rfl, numeral, scale⟩ := exists_numeral_of_readTimeNumber? h
  by_cases letter : ∃ e more, tail = e :: more ∧ (e = 'e' ∨ e = 'E')
  · obtain ⟨e, more, rfl, letter⟩ := letter
    rw [readShortScale?_letter letter, Option.bind_eq_some_iff] at scale
    obtain ⟨⟨k, behind⟩, exponent, short⟩ := scale
    dsimp only at short
    split at short
    next fits =>
      cases short
      obtain ⟨digits, rfl, whole⟩ := exists_whole_of_readExponent? exponent
      exact ⟨front ++ e :: digits, by simp, .scaled numeral letter whole fits⟩
    · cases short
  · have other : ∀ c, tail.head? = some c → ¬ (c = 'e' ∨ c = 'E') := by
      intro c hc is_letter
      exact letter ⟨c, _, List.eq_cons_of_mem_head? hc, is_letter⟩
    rw [readShortScale?_other other] at scale
    cases scale
    exact ⟨front, rfl, .plain numeral⟩

/-- The number of a time is read to its end, where nothing follows that would belong to it. -/
theorem TimeNumber.read?_append (h : TimeNumber front d) (stop : ∀ c, rest.head? = some c →
    c.isDigit = false ∧ c ∉ ['.', 'e', 'E']) :
    readTimeNumber? (front ++ rest) = some (d, rest) := by
  cases h with
  | plain numeral =>
      have no_point : ∀ c, rest.head? = some c → c.isDigit = false ∧ c ≠ '.' := by
        intro c hc
        obtain ⟨no_digit, other⟩ := stop c hc
        exact ⟨no_digit, by rintro rfl; exact other (by simp)⟩
      have no_letter : ∀ c, rest.head? = some c → ¬ (c = 'e' ∨ c = 'E') := by
        rintro c hc (rfl | rfl)
        · exact (stop _ hc).2 (by simp)
        · exact (stop _ hc).2 (by simp)
      rw [readTimeNumber?_numeral numeral no_point, readShortScale?_other no_letter]
  | @scaled front more d e k numeral letter whole short =>
      have no_point : ∀ c, (e :: more ++ rest).head? = some c → c.isDigit = false ∧ c ≠ '.' := by
        rintro _ ⟨⟩
        rcases letter with rfl | rfl <;> decide
      have exponent := whole.readExponent?_append fun c hc => (stop c hc).1
      rw [List.append_assoc, readTimeNumber?_numeral numeral no_point, List.cons_append,
        readShortScale?_letter letter, exponent]
      exact if_pos short

theorem TimeNumber.mem (h : TimeNumber cs d) {c : Char} (hc : c ∈ cs) :
    c.isDigit = true ∨ c ∈ ['.', 'e', 'E', '+', '-'] := by
  have mantissa {cs d} (numeral : Numeral cs d) (hc : c ∈ cs) :
      c.isDigit = true ∨ c ∈ ['.', 'e', 'E', '+', '-'] :=
    (numeral.isDigit_or_eq hc).imp_right fun point => by simp [point]
  cases h with
  | plain numeral => exact mantissa numeral hc
  | scaled numeral letter whole _ =>
      obtain front | rfl | back := List.mem_append.mp hc |>.imp_right List.mem_cons.mp
      · exact mantissa numeral front
      · exact .inr (by rcases letter with rfl | rfl <;> simp)
      · cases whole with
        | mk signed _ digits =>
            rcases List.mem_append.mp back with sign | digit
            · cases signed <;> simp_all
            · exact .inl (digits c digit)

/-! ## Times -/

/-- A text denotes a time: a number that is not below zero and a unit. -/
inductive DenotesTime : List Char → Quantity → Prop where
  | mk {negative : Bool} {number : List Char} {d : Decimal} {unit : TimeUnit} :
      TimeNumber number d → (negative = true → d.digits = 0) → unit ∈ timeUnits →
      DenotesTime ((if negative then '-' :: number else number) ++ unit.name.toList)
        (durationOf d unit)

/-- Names begin with no character that belongs to a number. -/
theorem head_name {unit : TimeUnit} (h : unit ∈ timeUnits) :
    ∀ c, unit.name.toList.head? = some c → c.isDigit = false ∧ c ∉ ['.', 'e', 'E'] := by
  have all : timeUnits.all fun unit => unit.name.toList.head?.all fun c =>
      !c.isDigit && !(['.', 'e', 'E'].contains c) := by decide
  have one := List.all_eq_true.mp all unit h
  intro c hc
  rw [hc] at one
  simpa using one

theorem find?_timeUnits {name : String} {unit : TimeUnit} :
    timeUnits.find? (·.name == name) = some unit ↔ unit ∈ timeUnits ∧ unit.name = name := by
  constructor
  · intro h
    exact ⟨List.mem_of_find?_eq_some h, by simpa using List.find?_some h⟩
  · rintro ⟨mem, rfl⟩
    have all : ∀ unit ∈ timeUnits, timeUnits.find? (·.name == unit.name) = some unit := by
      simp [timeUnits]
    exact all unit mem

/-- A text without a minus in front, and whether there was one. -/
def splitMinus : List Char → Bool × List Char
  | '-' :: rest => (true, rest)
  | cs => (false, cs)

theorem splitMinus_eq (cs : List Char) :
    (if (splitMinus cs).1 then '-' :: (splitMinus cs).2 else (splitMinus cs).2) = cs := by
  unfold splitMinus
  split <;> rfl

theorem splitMinus_of_isDigit {c : Char} {more : List Char} (digit : c.isDigit = true)
    (negative : Bool) :
    splitMinus (if negative then '-' :: c :: more else c :: more) = (negative, c :: more) := by
  cases negative with
  | true => rfl
  | false =>
      rw [if_neg Bool.false_ne_true, splitMinus]
      rintro _ ⟨⟩
      exact absurd digit (by decide)

theorem readDuration?_eq (text : String) : readDuration? text =
    (readTimeNumber? (splitMinus text.toList).2).bind fun p =>
      (timeUnits.find? (·.name == String.ofList p.2)).bind fun unit =>
        if (splitMinus text.toList).1 && p.1.digits ≠ 0 then none
        else some (durationOf p.1 unit) := by
  unfold readDuration?
  split
  next negative cs sign =>
    have parts : splitMinus text.toList = (negative, cs) := sign
    rw [parts]
    split
    next unread =>
      rw [unread]
      rfl
    next d rest read =>
      rw [read, Option.bind_some]
      dsimp only
      cases timeUnits.find? (·.name == String.ofList rest) <;> rfl

theorem TimeNumber.head (h : TimeNumber cs d) : ∃ c more, cs = c :: more ∧ c.isDigit = true := by
  cases h with
  | plain numeral => exact numeral.exists_cons
  | scaled numeral _ _ _ =>
      obtain ⟨c, more, rfl, digit⟩ := numeral.exists_cons
      exact ⟨c, _, rfl, digit⟩

/-- A text is read as a time if it denotes one, and as this time. -/
theorem readDuration?_eq_some_iff : readDuration? text = some q ↔ DenotesTime text.toList q := by
  rw [readDuration?_eq, Option.bind_eq_some_iff]
  constructor
  · rintro ⟨⟨d, rest⟩, read, h⟩
    obtain ⟨unit, found, time⟩ := Option.bind_eq_some_iff.mp h
    obtain ⟨number, parts, written⟩ := exists_timeNumber_of_read? read
    obtain ⟨listed, name⟩ := find?_timeUnits.mp found
    have ending : unit.name.toList = rest := by rw [name, String.toList_ofList]
    rw [← splitMinus_eq text.toList, parts]
    generalize (splitMinus text.toList).1 = negative at time
    split at time
    · cases time
    next allowed =>
      cases time
      have denotes := DenotesTime.mk written (by simpa using allowed) listed
      rw [ending] at denotes
      cases negative with
      | true => exact denotes
      | false => exact denotes
  · intro h
    generalize text.toList = cs at h
    obtain @⟨negative, number, d, unit, written, allowed, listed⟩ := h
    obtain ⟨c, more, rfl, digit⟩ := written.head
    have whole : (if negative then '-' :: c :: more else c :: more) ++ unit.name.toList =
        if negative then '-' :: c :: (more ++ unit.name.toList)
        else c :: (more ++ unit.name.toList) := by
      cases negative <;> rfl
    rw [whole, splitMinus_of_isDigit digit negative]
    refine ⟨_, written.read?_append (head_name listed), Option.bind_eq_some_iff.mpr ?_⟩
    refine ⟨unit, ?_, if_neg (by simpa using allowed)⟩
    exact find?_timeUnits.mpr ⟨listed, String.ofList_toList.symm⟩

theorem readDuration?_eq_none_iff :
    readDuration? text = none ↔ ¬ ∃ q, DenotesTime text.toList q := by
  rw [Option.eq_none_iff_forall_ne_some, not_exists]
  exact forall_congr' fun q => not_congr readDuration?_eq_some_iff

/-! ## Sizes -/

/-- A text is a size: a whole number of 64 bits, or a mantissa and a unit. -/
inductive SizeText : List Char → Prop where
  | bytes {ds : List Char} : ds ≠ [] → (∀ c ∈ ds, c.isDigit = true) →
      Text.digitsValue 0 ds < UInt64.size → SizeText ds
  | scaled {number blanks name : List Char} {d : Decimal} : Mantissa number d →
      (∀ c ∈ blanks, Text.isBlank c = true) →
      Text.lower (String.ofList name) ∈ sizeUnits.map (·.1) → SizeText (number ++ blanks ++ name)

/-- The characters that the number of a size is made of. -/
def isNumeric (c : Char) : Bool := c.isDigit || c == '.'

theorem toLower_of_isNumeric {c : Char} (h : isNumeric c = true) : c.toLower = c := by
  rcases Bool.or_eq_true_iff.mp h with digit | point
  · exact Text.toLower_of_isDigit digit
  · rw [beq_iff_eq.mp point]
    decide

theorem isNumeric_of_mem_mantissa (h : Mantissa cs d) {c : Char} (hc : c ∈ cs) :
    isNumeric c = true := by
  rw [isNumeric, Bool.or_eq_true_iff, beq_iff_eq]
  cases h with
  | whole _ digits => exact .inl (digits c hc)
  | pointed _ digits behind =>
      obtain front | rfl | back := List.mem_append.mp hc |>.imp_right List.mem_cons.mp
      · exact .inl (digits c front)
      · exact .inr rfl
      · exact .inl (behind c back)

theorem splitSign_of_isNumeric (numeric : ∀ c ∈ cs, isNumeric c = true) :
    splitSign cs = (false, cs) := by
  rw [splitSign]
  · rintro rest rfl
    exact absurd (numeric '-' List.mem_cons_self) (by decide)
  · rintro rest rfl
    exact absurd (numeric '+' List.mem_cons_self) (by decide)

theorem ofList_map_toLower_ne_of_isNumeric (numeric : ∀ c ∈ cs, isNumeric c = true) {w : String}
    (letter : w.toList.any fun c => !isNumeric c) :
    String.ofList (cs.map Char.toLower) ≠ w := by
  rintro rfl
  obtain ⟨c, hc, other⟩ := List.any_eq_true.mp letter
  rw [String.toList_ofList] at hc
  obtain ⟨c', hc', rfl⟩ := List.mem_map.mp hc
  rw [toLower_of_isNumeric (numeric c' hc'), numeric c' hc'] at other
  cases other

/-- Digits and points are read as a mantissa or not at all. -/
theorem isSome_parse?_iff (numeric : ∀ c ∈ cs, isNumeric c = true) :
    (parse? (String.ofList cs)).isSome ↔ ∃ d, Mantissa cs d := by
  have inf := ofList_map_toLower_ne_of_isNumeric numeric (w := "inf") (by decide)
  have infinity := ofList_map_toLower_ne_of_isNumeric numeric (w := "infinity") (by decide)
  have nan := ofList_map_toLower_ne_of_isNumeric numeric (w := "nan") (by decide)
  have parsed : (parse? (String.ofList cs)).isSome ↔ ∃ d, read? cs = some (d, []) := by
    rw [parse?, String.toList_ofList, splitSign_of_isNumeric numeric]
    dsimp only
    rw [decide_eq_false inf, decide_eq_false infinity, Bool.or_self, if_neg Bool.false_ne_true,
      if_neg nan]
    split
    next d read => exact iff_of_true rfl ⟨d, read⟩
    next other =>
      refine iff_of_false Bool.false_ne_true ?_
      rintro ⟨d, read⟩
      exact other d read
  rw [parsed]
  constructor
  · rintro ⟨d, read⟩
    cases read?_eq_some_iff.mp read with
    | plain mantissa => exact ⟨d, mantissa⟩
    | @scaled front more d e k _ letter _ =>
        have point := numeric e (List.mem_append_right front List.mem_cons_self)
        rcases letter with rfl | rfl <;> exact absurd point (by decide)
  · rintro ⟨d, mantissa⟩
    exact ⟨d, read?_eq_some_iff.mpr (.plain mantissa)⟩

theorem isSome_sizeOf?_iff (numeric : ∀ c ∈ cs, isNumeric c = true) (factor : Nat) :
    (sizeOf? cs factor).isSome ↔ ∃ d, Mantissa cs d := by
  unfold sizeOf?
  split
  next n whole =>
    obtain ⟨some, digits, _, _⟩ := natBelow?_eq_some_iff.mp whole
    exact iff_of_true rfl ⟨_, .whole some digits⟩
  next => rw [Option.isSome_map, isSome_parse?_iff numeric]

theorem toLower_of_isBlank {c : Char} (h : Text.isBlank c = true) : c.toLower = c := by
  have no_upper : ¬ (65 ≤ c.val ∧ c.val ≤ 90) := by
    intro upper
    have low : 65 ≤ c.toNat := UInt32.le_iff_toNat_le.mp upper.1
    have high : c.toNat ≤ 90 := UInt32.le_iff_toNat_le.mp upper.2
    simp only [Text.isBlank, Bool.or_eq_true, Bool.and_eq_true, decide_eq_true_eq,
      beq_iff_eq] at h
    omega
  exact dif_neg no_upper

theorem head_sizeName {name : List Char}
    (h : Text.lower (String.ofList name) ∈ sizeUnits.map (·.1)) :
    ∃ c more, name = c :: more ∧ isNumeric c = false ∧ Text.isBlank c = false := by
  have letters : (sizeUnits.map (·.1)).all fun name => name.toList.head?.any fun c =>
      !isNumeric c && !Text.isBlank c := by decide
  have first := List.all_eq_true.mp letters _ h
  rw [Text.lower, String.toList_ofList, String.toList_ofList] at first
  cases name with
  | nil => cases first
  | cons c more =>
      obtain ⟨no_number, no_blank⟩ : isNumeric c.toLower = false ∧
          Text.isBlank c.toLower = false := by simpa using first
      refine ⟨c, more, rfl, ?_, ?_⟩
      · by_contra number
        rw [Bool.not_eq_false] at number
        rw [toLower_of_isNumeric number, number] at no_number
        cases no_number
      · by_contra blank
        rw [Bool.not_eq_false] at blank
        rw [toLower_of_isBlank blank, blank] at no_blank
        cases no_blank

theorem isNumeric_of_isBlank {c : Char} (h : Text.isBlank c = true) : isNumeric c = false := by
  by_contra numeric
  rw [Bool.not_eq_false] at numeric
  rcases Bool.or_eq_true_iff.mp numeric with digit | point
  · rw [Text.isBlank_of_isDigit digit] at h
    cases h
  · rw [beq_iff_eq.mp point] at h
    exact absurd h (by decide)

theorem isSome_find?_sizeUnits {name : String} :
    (sizeUnits.find? (·.1 == name)).isSome ↔ name ∈ sizeUnits.map (·.1) := by
  simp only [List.find?_isSome, beq_iff_eq, List.mem_map]

/-- Whether a text is a size is seen at its digits, or at the characters of its number and what
follows them. -/
theorem isSome_readSize?_eq (text : String) : (readSize? text).isSome ↔
    (Text.natBelow? UInt64.size text.toList).isSome ∨
      (∃ d, Mantissa (text.toList.takeWhile isNumeric) d) ∧
        Text.lower (String.ofList (Text.trimLeft (text.toList.dropWhile isNumeric))) ∈
          sizeUnits.map (·.1) := by
  have numeric : ∀ c ∈ text.toList.takeWhile isNumeric, isNumeric c = true := by
    intro c hc
    exact List.all_eq_true.mp List.all_takeWhile c hc
  have numerals : (fun c : Char => c.isDigit || c == '.') = isNumeric := rfl
  rw [← isSome_find?_sizeUnits]
  unfold readSize?
  dsimp only
  rw [numerals]
  split
  next n whole => exact iff_of_true rfl (.inl (by rw [whole]; rfl))
  next no_whole =>
    rw [no_whole]
    split
    next unknown => simp [unknown]
    next u factor found => simp [found, isSome_sizeOf?_iff numeric]

/-- The number of a size is split off where no further character of one follows. -/
theorem takeWhile_isNumeric_append (numeric : ∀ c ∈ front, isNumeric c = true)
    (stop : ∀ c, rest.head? = some c → isNumeric c = false) :
    (front ++ rest).takeWhile isNumeric = front ∧ (front ++ rest).dropWhile isNumeric = rest := by
  rw [List.takeWhile_append_of_pos numeric, List.dropWhile_append_of_pos numeric]
  cases rest with
  | nil => exact ⟨List.append_nil _, rfl⟩
  | cons c more =>
      have other : ¬ isNumeric c = true := by rw [stop c rfl]; exact Bool.false_ne_true
      rw [List.takeWhile_cons_of_neg other, List.dropWhile_cons_of_neg other]
      exact ⟨List.append_nil _, rfl⟩

/-- A text is read as a size exactly if it is one. -/
theorem isSome_readSize?_iff : (readSize? text).isSome ↔ SizeText text.toList := by
  rw [isSome_readSize?_eq]
  constructor
  · rintro (whole | ⟨⟨d, mantissa⟩, listed⟩)
    · obtain ⟨n, read⟩ := Option.isSome_iff_exists.mp whole
      obtain ⟨some, digits, limit, _⟩ := natBelow?_eq_some_iff.mp read
      exact .bytes some digits limit
    · have blanks : ∀ c ∈ (text.toList.dropWhile isNumeric).takeWhile Text.isBlank,
          Text.isBlank c = true := fun c hc => List.all_eq_true.mp List.all_takeWhile c hc
      have size := SizeText.scaled mantissa blanks listed
      rwa [Text.trimLeft, List.append_assoc, List.takeWhile_append_dropWhile,
        List.takeWhile_append_dropWhile] at size
  · intro h
    generalize text.toList = cs at h
    cases h with
    | bytes some digits limit =>
        exact .inl (Option.isSome_iff_exists.mpr
          ⟨_, natBelow?_eq_some_iff.mpr ⟨some, digits, limit, rfl⟩⟩)
    | @scaled number blanks name d mantissa blank listed =>
        obtain ⟨c, more, rfl, no_number, no_blank⟩ := head_sizeName listed
        have stop : ∀ c', (blanks ++ c :: more).head? = some c' → isNumeric c' = false := by
          intro c' first
          cases blanks with
          | nil =>
              cases first
              exact no_number
          | cons b rest =>
              cases first
              exact isNumeric_of_isBlank (blank _ List.mem_cons_self)
        obtain ⟨front, back⟩ := takeWhile_isNumeric_append
          (fun c' hc' => isNumeric_of_mem_mantissa mantissa hc') stop
        have trimmed : Text.trimLeft (blanks ++ c :: more) = c :: more := by
          rw [Text.trimLeft, List.dropWhile_append_of_pos blank,
            List.dropWhile_cons_of_neg (by rw [no_blank]; exact Bool.false_ne_true)]
        rw [List.append_assoc, front, back, trimmed]
        exact .inr ⟨⟨d, mantissa⟩, listed⟩

theorem readSize?_eq_none_iff : readSize? text = none ↔ ¬ SizeText text.toList := by
  rw [← isSome_readSize?_iff, Option.not_isSome_iff_eq_none]

end Speedup.Quantity
