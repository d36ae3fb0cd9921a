import Mathlib.Data.List.Induction
import Speedup.Text.Utf8

/-!
# Text and its octets

Reading octets one at a time gives back the text they were made of (`decode?_encode`): the octets of
one character take the reader from between characters to behind that character, whatever was read
before. An octet below 0x80 is a character of its own wherever it stands, also behind a sequence
that it breaks, so such octets can be taken off either end before or after reading
(`pieces_cons_of_small`, `pieces_concat_of_small`).
-/

namespace Speedup.Text.Utf8

/-! ## The octets of a text -/

theorem loop_toList (octets : ByteArray) (left : Nat) {i : Nat} (done : List UInt8)
    (h : octets.size = i + left) :
    ByteArray.toList.loop octets i done = done.reverse ++ octets.data.toList.drop i := by
  have length : octets.data.toList.length = octets.size := by simp
  induction left generalizing i done with
  | zero =>
      rw [ByteArray.toList.loop, if_neg (by omega), List.drop_eq_nil_of_le (by omega),
        List.append_nil]
  | succ left ih =>
      have here : i < octets.data.toList.length := by omega
      rw [ByteArray.toList.loop, if_pos (by omega), ih _ (by omega),
        List.drop_eq_getElem_cons here, List.reverse_cons, List.append_assoc]
      simp [ByteArray.get!, (by omega : i < octets.size)]

theorem encode_eq (s : String) : encode s = s.toList.flatMap String.utf8EncodeChar := by
  show s.toByteArray.toList = _
  rw [ByteArray.toList, loop_toList _ s.toByteArray.size _ (Nat.zero_add _).symm,
    ← String.utf8Encode_toList, List.utf8Encode, List.toList_data_toByteArray]
  rfl

@[simp] theorem encode_empty : encode "" = [] := by
  rw [encode_eq]
  rfl

@[simp] theorem encode_append (s t : String) : encode (s ++ t) = encode s ++ encode t := by
  simp [encode_eq]

/-- An octet of a character is that character, or neither of them is below 0x80. -/
theorem mem_utf8EncodeChar {c : Char} {b : UInt8} (h : b ∈ String.utf8EncodeChar c) :
    b.toNat = c.toNat ∨ 0x80 ≤ c.toNat ∧ 0x80 ≤ b.toNat := by
  have number : c.val.toNat = c.toNat := rfl
  unfold String.utf8EncodeChar at h
  rw [number] at h
  dsimp only at h
  split at h
  · left
    rw [List.mem_singleton.mp h, UInt8.toNat_ofNat']
    omega
  · right
    refine ⟨by omega, ?_⟩
    split at h
    · simp only [List.mem_cons, List.not_mem_nil, or_false] at h
      rcases h with rfl | rfl <;> rw [UInt8.toNat_ofNat'] <;> omega
    · split at h
      · simp only [List.mem_cons, List.not_mem_nil, or_false] at h
        rcases h with rfl | rfl | rfl <;> rw [UInt8.toNat_ofNat'] <;> omega
      · simp only [List.mem_cons, List.not_mem_nil, or_false] at h
        rcases h with rfl | rfl | rfl | rfl <;> rw [UInt8.toNat_ofNat'] <;> omega

/-! ## One character -/

section Character

variable {n : Nat} (ps : List (Option Char))

theorem toNat_ofNat (h : n < 256) : (UInt8.ofNat n).toNat = n := by
  rw [UInt8.toNat_ofNat', Nat.mod_eq_of_lt h]

theorem step_inside {p : Pending} {b : UInt8} (low : p.low.toNat ≤ b.toNat)
    (high : b.toNat ≤ p.high.toNat) :
    Reading.step ⟨ps, some p⟩ b =
      if p.needed = 1 then ⟨some (Char.ofNat (p.code * 64 + (b.toNat - 0x80))) :: ps, none⟩
      else ⟨ps, some ⟨p.needed - 1, 0x80, 0xBF, p.code * 64 + (b.toNat - 0x80)⟩⟩ := by
  have inside : (p.low ≤ b && b ≤ p.high) = true := by
    simpa [UInt8.le_iff_toNat_le] using And.intro low high
  show (if p.low ≤ b && b ≤ p.high then _ else _) = _
  rw [if_pos inside]

/-- The second of several octets has bounds of its own. -/
theorem step_second (needed code : Nat) {low high : UInt8} (hl : low.toNat ≤ n % 64 + 128)
    (hh : n % 64 + 128 ≤ high.toNat) :
    Reading.step ⟨ps, some ⟨needed + 2, low, high, code⟩⟩ (UInt8.ofNat (n % 64 + 128)) =
      ⟨ps, some ⟨needed + 1, 0x80, 0xBF, code * 64 + n % 64⟩⟩ := by
  have octet : (UInt8.ofNat (n % 64 + 128)).toNat = n % 64 + 128 := toNat_ofNat (by omega)
  rw [step_inside ps (by rwa [octet]) (by rwa [octet]), octet, if_neg (by simp),
    Nat.add_sub_cancel]
  rfl

theorem step_third (needed code n : Nat) :
    Reading.step ⟨ps, some ⟨needed + 2, 0x80, 0xBF, code⟩⟩ (UInt8.ofNat (n % 64 + 128)) =
      ⟨ps, some ⟨needed + 1, 0x80, 0xBF, code * 64 + n % 64⟩⟩ := by
  have bounds : (0x80 : UInt8).toNat = 128 ∧ (0xBF : UInt8).toNat = 191 := ⟨rfl, rfl⟩
  exact step_second ps needed code (by omega) (by omega)

theorem step_last (code n : Nat) :
    Reading.step ⟨ps, some ⟨1, 0x80, 0xBF, code⟩⟩ (UInt8.ofNat (n % 64 + 128)) =
      ⟨some (Char.ofNat (code * 64 + n % 64)) :: ps, none⟩ := by
  have octet : (UInt8.ofNat (n % 64 + 128)).toNat = n % 64 + 128 := toNat_ofNat (by omega)
  have bounds : (0x80 : UInt8).toNat = 128 ∧ (0xBF : UInt8).toNat = 191 := ⟨rfl, rfl⟩
  rw [step_inside ps (by dsimp only; omega) (by dsimp only; omega), octet, if_pos rfl,
    Nat.add_sub_cancel]

theorem ite_bound {a x b b' : UInt8} {P : Nat → Prop} (tight : a.toNat = x.toNat → P b.toNat)
    (other : P b'.toNat) : P (if a = x then b else b').toNat := by
  by_cases h : a = x
  · rw [if_pos h]
    exact tight (congrArg UInt8.toNat h)
  · rw [if_neg h]
    exact other

theorem begin_small {b : UInt8} (h : b.toNat < 0x80) :
    Reading.begin ps b = ⟨some (Char.ofNat b.toNat) :: ps, none⟩ := by
  have small : b < 0x80 := UInt8.lt_iff_toNat_lt.mpr h
  rw [Reading.begin, start, if_pos small]

theorem begin_two (h : 0x80 ≤ n) (h' : n < 0x800) :
    Reading.begin ps (UInt8.ofNat (n / 64 % 32 + 192)) = ⟨ps, some ⟨1, 0x80, 0xBF, n / 64⟩⟩ := by
  have octet : (UInt8.ofNat (n / 64 % 32 + 192)).toNat = n / 64 + 192 := by
    rw [toNat_ofNat] <;> omega
  generalize UInt8.ofNat (n / 64 % 32 + 192) = a at octet ⊢
  have above : ¬ a < 0x80 ∧ ¬ a < 0xC2 ∧ a < 0xE0 := by
    simp only [UInt8.lt_iff_toNat_lt, UInt8.reduceToNat]
    omega
  rw [Reading.begin, start, if_neg above.1, if_neg above.2.1, if_pos above.2.2, octet,
    Nat.add_sub_cancel]

/-- Three octets: the bounds of the second rule out smaller numbers and surrogates. -/
theorem step_begin_three (h : 0x800 ≤ n) (h' : n < 0xD800 ∨ 0xDFFF < n ∧ n < 0x10000) :
    Reading.step (Reading.begin ps (UInt8.ofNat (n / 4096 % 16 + 224)))
        (UInt8.ofNat (n / 64 % 64 + 128)) =
      ⟨ps, some ⟨1, 0x80, 0xBF, n / 4096 * 64 + n / 64 % 64⟩⟩ := by
  have octet : (UInt8.ofNat (n / 4096 % 16 + 224)).toNat = n / 4096 + 224 := by
    rw [toNat_ofNat] <;> omega
  generalize UInt8.ofNat (n / 4096 % 16 + 224) = a at octet ⊢
  have above : ¬ a < 0x80 ∧ ¬ a < 0xC2 ∧ ¬ a < 0xE0 ∧ a < 0xF0 := by
    simp only [UInt8.lt_iff_toNat_lt, UInt8.reduceToNat]
    omega
  rw [Reading.begin, start, if_neg above.1, if_neg above.2.1, if_neg above.2.2.1,
    if_pos above.2.2.2, octet, Nat.add_sub_cancel]
  dsimp only
  apply step_second
  · refine ite_bound (P := (· ≤ _)) (fun least => ?_) (Nat.le_add_left _ _)
    dsimp only [UInt8.reduceToNat] at least ⊢
    omega
  · refine ite_bound (P := (_ ≤ ·)) (fun last => ?_) ?_
    all_goals dsimp only [UInt8.reduceToNat] at *; omega

/-- Four octets: the bounds of the second rule out smaller numbers and larger ones than there
are. -/
theorem step_begin_four (h : 0x10000 ≤ n) (h' : n < 0x110000) :
    Reading.step (Reading.begin ps (UInt8.ofNat (n / 262144 % 8 + 240)))
        (UInt8.ofNat (n / 4096 % 64 + 128)) =
      ⟨ps, some ⟨2, 0x80, 0xBF, n / 262144 * 64 + n / 4096 % 64⟩⟩ := by
  have octet : (UInt8.ofNat (n / 262144 % 8 + 240)).toNat = n / 262144 + 240 := by
    rw [toNat_ofNat] <;> omega
  generalize UInt8.ofNat (n / 262144 % 8 + 240) = a at octet ⊢
  have above : ¬ a < 0x80 ∧ ¬ a < 0xC2 ∧ ¬ a < 0xE0 ∧ ¬ a < 0xF0 ∧ a < 0xF5 := by
    simp only [UInt8.lt_iff_toNat_lt, UInt8.reduceToNat]
    omega
  rw [Reading.begin, start, if_neg above.1, if_neg above.2.1, if_neg above.2.2.1,
    if_neg above.2.2.2.1, if_pos above.2.2.2.2, octet, Nat.add_sub_cancel]
  dsimp only
  apply step_second
  · refine ite_bound (P := (· ≤ _)) (fun least => ?_) (Nat.le_add_left _ _)
    dsimp only [UInt8.reduceToNat] at least ⊢
    omega
  · refine ite_bound (P := (_ ≤ ·)) (fun last => ?_) ?_
    all_goals dsimp only [UInt8.reduceToNat] at *; omega

/-- The octets of a character are read as that character. -/
theorem foldl_step_utf8EncodeChar (c : Char) :
    (String.utf8EncodeChar c).foldl Reading.step ⟨ps, none⟩ = ⟨some c :: ps, none⟩ := by
  have valid : c.toNat < 0xD800 ∨ 0xDFFF < c.toNat ∧ c.toNat < 0x110000 := c.valid
  have number : c.val.toNat = c.toNat := rfl
  have same {k : Nat} (h : k = c.toNat) : Char.ofNat k = c := by rw [h, Char.ofNat_toNat]
  unfold String.utf8EncodeChar
  rw [number]
  dsimp only
  split
  · have octet : (UInt8.ofNat c.toNat).toNat = c.toNat := toNat_ofNat (by omega)
    show Reading.begin ps _ = _
    rw [begin_small ps (by omega), same octet]
  · split
    · show Reading.step (Reading.begin ps _) _ = _
      rw [begin_two ps (by omega) (by omega), step_last, same (by omega)]
    · split
      · show Reading.step (Reading.step (Reading.begin ps _) _) _ = _
        rw [step_begin_three ps (by omega) (by omega), step_last, same (by omega)]
      · show Reading.step (Reading.step (Reading.step (Reading.begin ps _) _) _) _ = _
        rw [step_begin_four ps (by omega) (by omega), step_third, step_last, same (by omega)]

end Character

/-! ## All characters -/

theorem foldl_step_encode (s : String) :
    (encode s).foldl Reading.step ⟨[], none⟩ = ⟨(s.toList.map some).reverse, none⟩ := by
  rw [encode_eq]
  induction s.toList using List.reverseRecOn with
  | nil => rfl
  | append_singleton cs c ih =>
      rw [List.flatMap_append, List.foldl_append, ih, List.flatMap_singleton,
        foldl_step_utf8EncodeChar]
      simp

theorem pieces_encode (s : String) : pieces (encode s) = s.toList.map some := by
  rw [pieces, foldl_step_encode]
  simp

theorem eq_map_some {ps : List (Option Char)} (h : ∀ p ∈ ps, p.isSome = true) :
    ps = (ps.filterMap id).map some := by
  induction ps with
  | nil => rfl
  | cons p ps ih =>
      obtain ⟨c, rfl⟩ := Option.isSome_iff_exists.mp (h p List.mem_cons_self)
      have rest := ih fun p hp => h p (List.mem_cons_of_mem _ hp)
      rw [List.filterMap_cons, id_eq, List.map_cons, ← rest]

/-- Octets are read as a text if their pieces are its characters. -/
theorem decode?_eq_ok_iff {octets : List UInt8} {s : String} :
    decode? octets = .ok s ↔ pieces octets = s.toList.map some := by
  unfold decode?
  dsimp only
  constructor
  · intro h
    split at h
    next all =>
      obtain rfl := Except.ok.inj h
      rw [String.toList_ofList]
      exact eq_map_some (List.all_eq_true.mp all)
    · cases h
  · intro h
    rw [h]
    simp

/-- The octets of a text are read as that text. -/
theorem decode?_encode (s : String) : decode? (encode s) = .ok s :=
  decode?_eq_ok_iff.mpr (pieces_encode s)

theorem encode_eq_nil_iff {s : String} : encode s = [] ↔ s = "" := by
  constructor
  · intro h
    have read := decode?_encode s
    rw [h] at read
    exact (Except.ok.inj read).symm
  · rintro rfl
    exact encode_empty

/-! ## Octets that are characters of their own -/

/-- What was read before stays as it is. -/
theorem step_append (r : Reading) (ps : List (Option Char)) (b : UInt8) :
    Reading.step ⟨r.pieces ++ ps, r.pending⟩ b =
      ⟨(r.step b).pieces ++ ps, (r.step b).pending⟩ := by
  have first (qs : List (Option Char)) : Reading.begin (qs ++ ps) b =
      ⟨(Reading.begin qs b).pieces ++ ps, (Reading.begin qs b).pending⟩ := by
    unfold Reading.begin
    split <;> rfl
  obtain ⟨qs, pending⟩ := r
  cases pending with
  | none => exact first qs
  | some p =>
      simp only [Reading.step]
      split
      · split <;> rfl
      · exact first (none :: qs)

theorem foldl_step_append (octets : List UInt8) (r : Reading) (ps : List (Option Char)) :
    octets.foldl Reading.step ⟨r.pieces ++ ps, r.pending⟩ =
      ⟨(octets.foldl Reading.step r).pieces ++ ps, (octets.foldl Reading.step r).pending⟩ := by
  induction octets generalizing r with
  | nil => rfl
  | cons b octets ih => rw [List.foldl_cons, step_append, ih, List.foldl_cons]

/-- No octet below 0x80 continues a character. -/
def Reading.Open (r : Reading) : Prop := ∀ p, r.pending = some p → 0x80 ≤ p.low.toNat

theorem open_begin (ps : List (Option Char)) (b : UInt8) : (Reading.begin ps b).Open := by
  have bound : (0x80 : UInt8).toNat = 128 ∧ (0xA0 : UInt8).toNat = 160 ∧
      (0x90 : UInt8).toNat = 144 := ⟨rfl, rfl, rfl⟩
  intro p h
  unfold Reading.begin start at h
  split_ifs at h <;> simp only [Option.some.injEq] at h
  all_goals subst h; dsimp only; omega

theorem open_step {r : Reading} (b : UInt8) : (r.step b).Open := by
  unfold Reading.step
  split
  · exact open_begin _ b
  · split
    · intro p h
      split at h
      · cases h
      · obtain rfl := Option.some.inj h
        exact Nat.le_refl _
    · exact open_begin _ b

theorem open_foldl (octets : List UInt8) : (octets.foldl Reading.step ⟨[], none⟩).Open := by
  rcases List.eq_nil_or_concat octets with rfl | ⟨front, b, rfl⟩
  · exact nofun
  · rw [List.concat_eq_append, List.foldl_append]
    exact open_step b

theorem pieces_append_of_whole {c : Char} (front : List UInt8)
    (h : front.foldl Reading.step ⟨[], none⟩ = ⟨[some c], none⟩) (octets : List UInt8) :
    pieces (front ++ octets) = some c :: pieces octets := by
  unfold pieces
  rw [List.foldl_append, h, show [some c] = [] ++ [some c] from rfl,
    foldl_step_append octets ⟨[], none⟩]
  dsimp only
  split <;> simp

theorem pieces_utf8EncodeChar_append (c : Char) (octets : List UInt8) :
    pieces (String.utf8EncodeChar c ++ octets) = some c :: pieces octets :=
  pieces_append_of_whole _ (foldl_step_utf8EncodeChar [] c) octets

theorem pieces_cons_of_small {b : UInt8} (h : b.toNat < 0x80) (octets : List UInt8) :
    pieces (b :: octets) = some (Char.ofNat b.toNat) :: pieces octets :=
  pieces_append_of_whole [b] (begin_small [] h) octets

theorem pieces_concat_of_small {b : UInt8} (h : b.toNat < 0x80) (octets : List UInt8) :
    pieces (octets ++ [b]) = pieces octets ++ [some (Char.ofNat b.toNat)] := by
  have inside := open_foldl octets
  unfold pieces
  rw [List.foldl_append, List.foldl_cons, List.foldl_nil]
  generalize octets.foldl Reading.step ⟨[], none⟩ = r at inside ⊢
  obtain ⟨ps, pending⟩ := r
  cases pending with
  | none =>
      rw [show Reading.step ⟨ps, none⟩ b = Reading.begin ps b from rfl, begin_small ps h]
      simp
  | some p =>
      have low := inside p rfl
      have broken : ¬ (p.low ≤ b && b ≤ p.high) = true := by
        simp only [Bool.and_eq_true, decide_eq_true_eq, UInt8.le_iff_toNat_le]
        omega
      rw [show Reading.step ⟨ps, some p⟩ b = Reading.begin (none :: ps) b from if_neg broken,
        begin_small _ h]
      simp

end Speedup.Text.Utf8
