/-!
# Text from octets

UTF-8 read one octet at a time. A sequence that no character can begin or continue with is
broken; it ends at the first octet that rules a character out. `decode?` refuses broken sequences
and tells where the first one begins, `decodeLossy` puts the replacement character for each.
-/

namespace Speedup.Text.Utf8

/-- A character that has begun: how many octets it still needs, between which bounds the next one
lies, and the number made of its octets so far. -/
structure Pending where
  needed : Nat
  low : UInt8
  high : UInt8
  code : Nat

/-- What an octet between characters starts: a whole character, a longer one, or nothing. -/
inductive Start where
  | whole (c : Char)
  | longer (p : Pending)
  | broken

/-- Octets after the first lie between 0x80 and 0xBF; after some first octets the bounds of the
second are tighter, so that every number is written in one way and none is a surrogate. -/
def start (b : UInt8) : Start :=
  if b < 0x80 then .whole (Char.ofNat b.toNat)
  else if b < 0xC2 then .broken
  else if b < 0xE0 then .longer ⟨1, 0x80, 0xBF, b.toNat - 0xC0⟩
  else if b < 0xF0 then
    .longer ⟨2, if b = 0xE0 then 0xA0 else 0x80, if b = 0xED then 0x9F else 0xBF, b.toNat - 0xE0⟩
  else if b < 0xF5 then
    .longer ⟨3, if b = 0xF0 then 0x90 else 0x80, if b = 0xF4 then 0x8F else 0xBF, b.toNat - 0xF0⟩
  else .broken

/-- The pieces read so far, last first, and the character that has begun. A broken sequence is a
piece without a character. -/
structure Reading where
  pieces : List (Option Char)
  pending : Option Pending

def Reading.begin (pieces : List (Option Char)) (b : UInt8) : Reading :=
  match start b with
  | .whole c => ⟨some c :: pieces, none⟩
  | .longer p => ⟨pieces, some p⟩
  | .broken => ⟨none :: pieces, none⟩

/-- Takes an octet. One that cannot continue the character that has begun breaks it and is read
again between characters. -/
def Reading.step (r : Reading) (b : UInt8) : Reading :=
  match r.pending with
  | none => .begin r.pieces b
  | some p =>
    if p.low ≤ b && b ≤ p.high then
      let code := p.code * 64 + (b.toNat - 0x80)
      if p.needed = 1 then ⟨some (Char.ofNat code) :: r.pieces, none⟩
      else ⟨r.pieces, some ⟨p.needed - 1, 0x80, 0xBF, code⟩⟩
    else .begin (none :: r.pieces) b

/-- The characters and broken sequences of octets, in order. -/
def pieces (octets : List UInt8) : List (Option Char) :=
  let r := octets.foldl Reading.step ⟨[], none⟩
  (if r.pending.isSome then none :: r.pieces else r.pieces).reverse

/-- The length in octets of the characters before the first broken sequence. -/
def validLength (pieces : List (Option Char)) : Nat :=
  ((pieces.takeWhile Option.isSome).filterMap id).foldl (fun n c => n + c.utf8Size) 0

/-- The text of octets, or where their first broken sequence begins. -/
def decode? (octets : List UInt8) : Except Nat String :=
  let ps := pieces octets
  if ps.all Option.isSome then .ok (String.ofList (ps.filterMap id)) else .error (validLength ps)

/-- The text of octets with U+FFFD for every broken sequence. -/
def decodeLossy (octets : List UInt8) : String :=
  String.ofList ((pieces octets).map fun p => p.getD '\ufffd')

def encode (s : String) : List UInt8 := s.toUTF8.toList

example : decodeLossy [0x61, 0xC3, 0xA9, 0xF0, 0x9F, 0x62] = "aé\ufffdb" := by decide +kernel

end Speedup.Text.Utf8
