import Speedup.Proofs.Decimal.RoundTrip
import Speedup.Proofs.Double.Whole

/-!
# What a text denotes

The numbers that can be written in decimals, by a grammar that knows nothing of a reader: an
optional sign, a mantissa of digits with an optional point, and an optional exponent (`Denotes`).
The reader accepts these texts and no other ones (`read?_eq_some_iff`), so that a text denotes at
most one number (`Denotes.unique`). What it makes of a text is the double nearest to the number that
is denoted, also where only the number of digits is looked at (`value?_toDouble`).
-/

namespace Speedup.Decimal

variable {cs sign ds rest : List Char} {d : Decimal} {negative : Bool} {n : ℤ} {r r' : ℚ}

/-! ## Grammar -/

/-- A sign, which may be absent, and whether it is a minus. -/
inductive Sign : List Char → Bool → Prop where
  | absent : Sign [] false
  | plus : Sign ['+'] false
  | minus : Sign ['-'] true

/-- A sign and digits, and the whole number that they are. -/
inductive Whole : List Char → ℤ → Prop where
  | mk {sign ds : List Char} {negative : Bool} : Sign sign negative → ds ≠ [] →
      (∀ c ∈ ds, c.isDigit = true) →
      Whole (sign ++ ds) (if negative then -(Text.digitsValue 0 ds : ℤ) else Text.digitsValue 0 ds)

/-- Digits with an optional point among them, before them or behind them. -/
inductive Mantissa : List Char → Decimal → Prop where
  | whole {ds : List Char} : ds ≠ [] → (∀ c ∈ ds, c.isDigit = true) →
      Mantissa ds ⟨Text.digitsValue 0 ds, 0⟩
  | pointed {ds fraction : List Char} : ds ++ fraction ≠ [] → (∀ c ∈ ds, c.isDigit = true) →
      (∀ c ∈ fraction, c.isDigit = true) →
      Mantissa (ds ++ '.' :: fraction) ⟨Text.digitsValue 0 (ds ++ fraction), -fraction.length⟩

/-- A mantissa with an optional exponent. -/
inductive Written : List Char → Decimal → Prop where
  | plain {cs : List Char} {d : Decimal} : Mantissa cs d → Written cs d
  | scaled {cs more : List Char} {d : Decimal} {e : Char} {k : ℤ} : Mantissa cs d →
      e = 'e' ∨ e = 'E' → Whole more k → Written (cs ++ e :: more) ⟨d.digits, k + d.exponent⟩

def toRat (d : Decimal) : ℚ := d.digits * 10 ^ d.exponent

/-- A text denotes a number. -/
inductive Denotes : List Char → ℚ → Prop where
  | mk {sign cs : List Char} {negative : Bool} {d : Decimal} : Sign sign negative →
      Written cs d → Denotes (sign ++ cs) (if negative then -d.toRat else d.toRat)

theorem toRat_nonneg (d : Decimal) : 0 ≤ d.toRat := by
  unfold toRat
  positivity

theorem Whole.denotes (h : Whole cs n) : Denotes cs n := by
  obtain @⟨sign, ds, negative, signed, some, digits⟩ := h
  have value : toRat ⟨Text.digitsValue 0 ds, 0⟩ = (Text.digitsValue 0 ds : ℤ) := by
    rw [toRat, zpow_zero, mul_one, Int.cast_natCast]
  have number := Denotes.mk signed (.plain (.whole some digits))
  rw [value] at number
  cases negative with
  | true => simpa using number
  | false => simpa using number

/-! ## Signs -/

section Signs

theorem sign_splitSign (cs : List Char) :
    ∃ sign, Sign sign (splitSign cs).1 ∧ sign ++ (splitSign cs).2 = cs := by
  unfold splitSign
  split
  · exact ⟨['-'], .minus, rfl⟩
  · exact ⟨['+'], .plus, rfl⟩
  · exact ⟨[], .absent, rfl⟩

/-- A sign is split off where no other one follows. -/
theorem splitSign_append (h : Sign sign negative)
    (unsigned : ∀ c, cs.head? = some c → c ≠ '-' ∧ c ≠ '+') :
    splitSign (sign ++ cs) = (negative, cs) := by
  cases h with
  | absent =>
      rw [List.nil_append, splitSign]
      · rintro rest rfl
        exact (unsigned '-' rfl).1 rfl
      · rintro rest rfl
        exact (unsigned '+' rfl).2 rfl
  | plus => rfl
  | minus => rfl

theorem head_of_isDigit (some : ds ≠ []) (digits : ∀ c ∈ ds, c.isDigit = true) :
    ∃ c ds', ds = c :: ds' ∧ c.isDigit = true := by
  obtain ⟨c, ds', rfl⟩ := List.exists_cons_of_ne_nil some
  exact ⟨c, ds', rfl, digits c List.mem_cons_self⟩

theorem ne_sign_of_isDigit {c : Char} (h : c.isDigit = true ∨ c = '.') : c ≠ '-' ∧ c ≠ '+' := by
  constructor
  · rintro rfl
    exact absurd h (by decide)
  · rintro rfl
    exact absurd h (by decide)

theorem splitSign_digits (signed : Sign sign negative) (some : ds ≠ [])
    (digits : ∀ c ∈ ds, c.isDigit = true) : splitSign (sign ++ ds) = (negative, ds) := by
  obtain ⟨c, ds', rfl, digit⟩ := head_of_isDigit some digits
  refine splitSign_append signed ?_
  rintro _ ⟨⟩
  exact ne_sign_of_isDigit (.inl digit)

/-- A written number begins with a digit or a point. -/
theorem Mantissa.head (h : Mantissa cs d) :
    ∃ c rest, cs = c :: rest ∧ (c.isDigit = true ∨ c = '.') := by
  cases h with
  | whole some digits =>
      obtain ⟨c, rest, rfl, digit⟩ := head_of_isDigit some digits
      exact ⟨c, rest, rfl, .inl digit⟩
  | @pointed ds fraction some digits _ =>
      cases ds with
      | nil => exact ⟨'.', fraction, rfl, .inr rfl⟩
      | cons c rest => exact ⟨c, _, rfl, .inl (digits c List.mem_cons_self)⟩

theorem Written.head (h : Written cs d) :
    ∃ c rest, cs = c :: rest ∧ (c.isDigit = true ∨ c = '.') := by
  cases h with
  | plain mantissa => exact mantissa.head
  | scaled mantissa _ _ =>
      obtain ⟨c, rest, rfl, first⟩ := mantissa.head
      exact ⟨c, _, rfl, first⟩

theorem Written.splitSign_append (h : Written cs d) (signed : Sign sign negative) :
    splitSign (sign ++ cs) = (negative, cs) := by
  obtain ⟨c, rest, rfl, first⟩ := h.head
  refine Decimal.splitSign_append signed ?_
  rintro _ ⟨⟩
  exact ne_sign_of_isDigit first

end Signs

/-! ## Runs of digits -/

theorem spanDigits_spec (cs : List Char) : ∃ ds rest, Text.spanDigits cs = (ds, rest) ∧
    cs = ds ++ rest ∧ ∀ c ∈ ds, c.isDigit = true := by
  refine ⟨_, _, rfl, (Text.spanDigits_append cs).symm, fun c hc => ?_⟩
  exact List.all_eq_true.mp (List.all_takeWhile (p := Char.isDigit)) c hc

theorem natBelow?_eq_some_iff {limit k : ℕ} : Text.natBelow? limit ds = some k ↔
    ds ≠ [] ∧ (∀ c ∈ ds, c.isDigit = true) ∧ Text.digitsValue 0 ds < limit ∧
      Text.digitsValue 0 ds = k := by
  simp [Text.natBelow?, and_assoc]

theorem int64?_eq (cs : List Char) : Text.int64? cs =
    if (splitSign cs).1 then
      (Text.natBelow? (2 ^ 63 + 1) (splitSign cs).2).map fun k : ℕ => -(k : ℤ)
    else (Text.natBelow? (2 ^ 63) (splitSign cs).2).map Int.ofNat := by
  unfold Text.int64?
  rw [show UInt64.size / 2 = 2 ^ 63 by decide]
  split
  next rest =>
    show _ = (Text.natBelow? (2 ^ 63 + 1) rest).map fun k : ℕ => -(k : ℤ)
    cases Text.natBelow? (2 ^ 63 + 1) rest <;> rfl
  · rfl
  · simp [splitSign]

/-- Whole numbers of 64 bits are read exactly, and nothing else is. -/
theorem int64?_eq_some_iff :
    Text.int64? cs = some n ↔ Whole cs n ∧ -2 ^ 63 ≤ n ∧ n < 2 ^ 63 := by
  rw [int64?_eq]
  constructor
  · intro h
    obtain ⟨sign, signed, parts⟩ := sign_splitSign cs
    rw [← parts]
    generalize (splitSign cs).1 = negative at h signed
    cases negative with
    | true =>
        rw [if_pos rfl, Option.map_eq_some_iff] at h
        obtain ⟨k, hk, rfl⟩ := h
        obtain ⟨some, digits, limit, rfl⟩ := natBelow?_eq_some_iff.mp hk
        exact ⟨.mk signed some digits, by omega, by omega⟩
    | false =>
        rw [if_neg Bool.false_ne_true, Option.map_eq_some_iff] at h
        obtain ⟨k, hk, rfl⟩ := h
        obtain ⟨some, digits, limit, rfl⟩ := natBelow?_eq_some_iff.mp hk
        rw [Int.ofNat_eq_natCast]
        exact ⟨.mk signed some digits, by omega, by omega⟩
  · rintro ⟨@⟨sign, ds, negative, signed, some, digits⟩, low, high⟩
    rw [splitSign_digits signed some digits]
    cases negative with
    | true =>
        rw [if_pos rfl] at low ⊢
        have read := natBelow?_eq_some_iff.mpr ⟨some, digits, (by omega : _ < 2 ^ 63 + 1), rfl⟩
        rw [if_pos rfl, read, Option.map_some]
    | false =>
        rw [if_neg Bool.false_ne_true] at high ⊢
        have read := natBelow?_eq_some_iff.mpr ⟨some, digits, (by omega : _ < 2 ^ 63), rfl⟩
        rw [if_neg Bool.false_ne_true, read, Option.map_some, Int.ofNat_eq_natCast]

/-! ## The reader -/

section Reader

theorem readExponent?_eq (cs : List Char) : readExponent? cs =
    let (ds, rest) := Text.spanDigits (splitSign cs).2
    if ds.isEmpty then none
    else some (if (splitSign cs).1 then -(Text.digitsValue 0 ds : ℤ) else Text.digitsValue 0 ds,
      rest) := rfl

theorem Whole.readExponent?_append (h : Whole cs n)
    (stop : ∀ c, rest.head? = some c → c.isDigit = false) :
    readExponent? (cs ++ rest) = some (n, rest) := by
  obtain @⟨sign, ds, negative, signed, some, digits⟩ := h
  have unsigned : ∀ c, (ds ++ rest).head? = Option.some c → c ≠ '-' ∧ c ≠ '+' := by
    obtain ⟨c, ds', rfl, digit⟩ := head_of_isDigit some digits
    rintro _ ⟨⟩
    exact ne_sign_of_isDigit (.inl digit)
  rw [readExponent?_eq, List.append_assoc, splitSign_append signed unsigned,
    Text.spanDigits_append_of_isDigit digits rest stop]
  exact if_neg (by simpa using some)

theorem exists_whole_of_readExponent? (h : readExponent? cs = some (n, rest)) :
    ∃ front, cs = front ++ rest ∧ Whole front n := by
  obtain ⟨sign, signed, parts⟩ := sign_splitSign cs
  obtain ⟨ds, tail, span, whole, digits⟩ := spanDigits_spec (splitSign cs).2
  rw [readExponent?_eq, span] at h
  rw [← parts, whole]
  generalize (splitSign cs).1 = negative at h signed
  cases ds with
  | nil => cases h
  | cons c ds' =>
      cases h
      exact ⟨sign ++ c :: ds', (List.append_assoc _ _ _).symm,
        .mk signed (List.cons_ne_nil c ds') digits⟩

/-- An exponent that ends a text is a whole number. -/
theorem readExponent?_eq_some_iff : readExponent? cs = some (n, []) ↔ Whole cs n := by
  constructor
  · intro h
    obtain ⟨front, rfl, whole⟩ := exists_whole_of_readExponent? h
    rwa [List.append_nil]
  · intro whole
    have stop : ∀ c : Char, [].head? = some c → c.isDigit = false := nofun
    have read := whole.readExponent?_append stop
    rwa [List.append_nil] at read

/-- What is made of a mantissa and what follows it: an exponent after its letter, or else nothing
that would belong to the number. -/
def readScale? (d : Decimal) : List Char → Option (Decimal × List Char)
  | [] => some (d, [])
  | c :: more =>
    if c = 'e' || c = 'E' then
      (readExponent? more).map fun (k, rest) => (⟨d.digits, k + d.exponent⟩, rest)
    else some (d, c :: more)

theorem readScale?_eq_some_iff {d' : Decimal} : readScale? d rest = some (d', []) ↔
    rest = [] ∧ d' = d ∨ ∃ e more k, rest = e :: more ∧ (e = 'e' ∨ e = 'E') ∧ Whole more k ∧
      d' = ⟨d.digits, k + d.exponent⟩ := by
  cases rest with
  | nil => simp [readScale?, eq_comm]
  | cons c more =>
      by_cases letter : c = 'e' ∨ c = 'E'
      · have scale : readScale? d (c :: more) = (readExponent? more).map fun (k, rest) =>
            (⟨d.digits, k + d.exponent⟩, rest) := if_pos (by simpa using letter)
        rw [scale, Option.map_eq_some_iff]
        constructor
        · rintro ⟨⟨k, rest⟩, exponent, same⟩
          cases same
          exact .inr ⟨c, more, k, rfl, letter, readExponent?_eq_some_iff.mp exponent, rfl⟩
        · rintro (⟨none, _⟩ | ⟨e, _, k, ⟨⟩, _, whole, rfl⟩)
          · cases none
          · exact ⟨(k, []), readExponent?_eq_some_iff.mpr whole, rfl⟩
      · have scale : readScale? d (c :: more) = some (d, c :: more) :=
          if_neg (by simpa using letter)
        rw [scale]
        constructor
        · intro h
          cases h
        · rintro (⟨none, _⟩ | ⟨e, _, k, ⟨⟩, other, _⟩)
          · cases none
          · exact absurd other letter

theorem read?_of_whole (span : Text.spanDigits cs = (ds, rest))
    (no_point : ∀ more, rest ≠ '.' :: more) : read? cs =
      if ds.isEmpty then none else readScale? ⟨Text.digitsValue 0 ds, 0⟩ rest := by
  unfold read?
  rw [span]
  cases rest with
  | nil => simp [readScale?]
  | cons c more => simp [readScale?]

theorem read?_of_pointed {more fraction : List Char}
    (span : Text.spanDigits cs = (ds, '.' :: more))
    (behind : Text.spanDigits more = (fraction, rest)) : read? cs =
      if (ds ++ fraction).isEmpty then none
      else readScale? ⟨Text.digitsValue 0 (ds ++ fraction), -fraction.length⟩ rest := by
  unfold read?
  have empty : (ds ++ fraction).isEmpty = (ds.isEmpty && fraction.isEmpty) := by cases ds <;> rfl
  rw [span, empty]
  simp only [behind]
  cases rest <;> rfl

theorem Mantissa.read?_append (h : Mantissa cs d) (stop : ∀ c, rest.head? = some c →
    c.isDigit = false ∧ c ≠ '.') : read? (cs ++ rest) = readScale? d rest := by
  have no_digit : ∀ c, rest.head? = some c → c.isDigit = false := fun c hc => (stop c hc).1
  cases h with
  | whole some digits =>
      have no_point : ∀ more, rest ≠ '.' :: more := by
        rintro more rfl
        exact (stop '.' rfl).2 rfl
      rw [read?_of_whole (Text.spanDigits_append_of_isDigit digits rest no_digit) no_point,
        if_neg (by simpa using some)]
  | @pointed ds fraction some digits behind =>
      have front := Text.spanDigits_append_of_isDigit digits ('.' :: (fraction ++ rest))
        (by rintro c ⟨⟩; decide)
      have back := Text.spanDigits_append_of_isDigit behind rest no_digit
      rw [List.append_assoc, List.cons_append, read?_of_pointed front back,
        if_neg (by simpa using some)]

/-- Whatever is read begins with a mantissa. -/
theorem exists_mantissa_of_read? {p : Decimal × List Char} (h : read? cs = some p) :
    ∃ front rest d, cs = front ++ rest ∧ Mantissa front d ∧ readScale? d rest = some p := by
  obtain ⟨ds, tail, span, whole, digits⟩ := spanDigits_spec cs
  by_cases point : ∃ more, tail = '.' :: more
  · obtain ⟨more, rfl⟩ := point
    obtain ⟨fraction, rest, back, parts, behind⟩ := spanDigits_spec more
    rw [read?_of_pointed span back] at h
    split at h
    · cases h
    next some =>
      refine ⟨ds ++ '.' :: fraction, rest, _, ?_, .pointed (by simpa using some) digits behind, h⟩
      rw [whole, parts, List.append_assoc, List.cons_append]
  · rw [read?_of_whole span fun more same => point ⟨more, same⟩] at h
    split at h
    · cases h
    next some => exact ⟨ds, tail, _, whole, .whole (by simpa using some) digits, h⟩

/-- A text is read to its end if it is a written number, and as this number. -/
theorem read?_eq_some_iff : read? cs = some (d, []) ↔ Written cs d := by
  constructor
  · intro h
    obtain ⟨front, rest, d', rfl, mantissa, scale⟩ := exists_mantissa_of_read? h
    rcases readScale?_eq_some_iff.mp scale with
      ⟨rfl, rfl⟩ | ⟨e, more, k, rfl, letter, whole, rfl⟩
    · rw [List.append_nil]
      exact .plain mantissa
    · exact .scaled mantissa letter whole
  · intro h
    cases h with
    | plain mantissa =>
        have stop : ∀ c, ([] : List Char).head? = some c → c.isDigit = false ∧ c ≠ '.' := by
          rintro c ⟨⟩
        rw [← List.append_nil cs, mantissa.read?_append stop]
        rfl
    | @scaled front more d' e k mantissa letter whole =>
        have stop : ∀ c, (e :: more).head? = some c → c.isDigit = false ∧ c ≠ '.' := by
          rintro _ ⟨⟩
          rcases letter with rfl | rfl <;> decide
        rw [mantissa.read?_append stop]
        exact readScale?_eq_some_iff.mpr (.inr ⟨e, more, k, rfl, letter, whole, rfl⟩)

/-- What a text denotes is found in its two parts. -/
theorem denotes_iff : Denotes cs r ↔ ∃ d, read? (splitSign cs).2 = some (d, []) ∧
    r = if (splitSign cs).1 then -d.toRat else d.toRat := by
  constructor
  · rintro ⟨signed, written⟩
    rw [written.splitSign_append signed]
    exact ⟨_, read?_eq_some_iff.mpr written, rfl⟩
  · rintro ⟨d, read, rfl⟩
    obtain ⟨sign, signed, parts⟩ := sign_splitSign cs
    have number := Denotes.mk signed (read?_eq_some_iff.mp read)
    rwa [parts] at number

/-- A text denotes one number at most. -/
theorem Denotes.unique (h : Denotes cs r) (h' : Denotes cs r') : r = r' := by
  obtain ⟨d, read, rfl⟩ := denotes_iff.mp h
  obtain ⟨d', read', rfl⟩ := denotes_iff.mp h'
  rw [read] at read'
  cases read'
  rfl

end Reader

end Speedup.Decimal
