import Speedup.Text.Utf8

/-!
# Reading comma-separated values

Octets are split into records and fields. A comma ends a field, a line feed or carriage return
ends a record, and lines without anything are passed over. A quote at the start of a field opens
a quoted part, in which these characters stand for themselves and a doubled quote for one; what
follows the closing quote is taken as it is.

Records are positions and fields of octets. They become text in a second step, `textFields`.
-/

namespace Speedup.Csv

/-- Where a record begins, counted before any lines without content are passed over. -/
structure Position where
  record : Nat
  line : Nat
  byte : Nat
  deriving DecidableEq, Repr

structure Record (β : Type) where
  position : Position
  fields : List β
  deriving DecidableEq, Repr

/-! ## Splitting -/

/-- Where the reader stands between two octets. -/
inductive Place where
  | recordStart
  | fieldStart
  | plain
  | quoted
  | afterQuote
  deriving DecidableEq, Repr

/-- The reader after some octets: what is read of the current field and record (last first), the
finished records (last first), where the current record began and where the reader is now. -/
structure Splitter where
  place : Place
  field : List UInt8
  fields : List (List UInt8)
  records : List (Record (List UInt8))
  began : Position
  line : Nat
  byte : Nat

namespace Splitter

def comma : UInt8 := 0x2C
def quote : UInt8 := 0x22
def lineFeed : UInt8 := 0x0A
def carriageReturn : UInt8 := 0x0D

def isLineEnd (b : UInt8) : Bool := b == lineFeed || b == carriageReturn

def push (s : Splitter) (place : Place) (b : UInt8) : Splitter :=
  { s with place, field := b :: s.field }

def endField (s : Splitter) : Splitter :=
  { s with place := .fieldStart, field := [], fields := s.field.reverse :: s.fields }

/-- Ends the current record; the next one begins here. -/
def endRecord (s : Splitter) : Splitter :=
  let s := s.endField
  { s with
    place := .recordStart
    fields := []
    records := ⟨s.began, s.fields.reverse⟩ :: s.records
    began := ⟨s.began.record + 1, s.line, s.byte⟩ }

def stepPlain (s : Splitter) (b : UInt8) : Splitter :=
  if b = comma then s.endField else if isLineEnd b then s.endRecord else s.push .plain b

def stepStart (s : Splitter) (b : UInt8) : Splitter :=
  if b = quote then { s with place := .quoted } else s.stepPlain b

def step (s : Splitter) (b : UInt8) : Splitter :=
  let s := { s with byte := s.byte + 1, line := if b = lineFeed then s.line + 1 else s.line }
  match s.place with
  | .recordStart => if isLineEnd b then s else s.stepStart b
  | .fieldStart => s.stepStart b
  | .plain => s.stepPlain b
  | .quoted => if b = quote then { s with place := .afterQuote } else s.push .quoted b
  | .afterQuote => if b = quote then s.push .quoted b else s.stepPlain b

/-- Ends a record that the end of the input leaves open. -/
def finish (s : Splitter) : Splitter :=
  match s.place with
  | .recordStart => s
  | _ => s.endRecord

end Splitter

/-- The octets without a byte order mark at their front, and its length. -/
def dropMark (octets : List UInt8) : Nat × List UInt8 :=
  match octets with
  | 0xEF :: 0xBB :: 0xBF :: rest => (3, rest)
  | _ => (0, octets)

def records (octets : List UInt8) : List (Record (List UInt8)) :=
  let (skipped, octets) := dropMark octets
  let first : Splitter := ⟨.recordStart, [], [], [], ⟨0, 1, 0⟩, 1, skipped⟩
  (octets.foldl Splitter.step first).finish.records.reverse

/-! ## What can be wrong -/

inductive Problem where
  | fieldCount (position : Position) (found expected : Nat)
  /-- A field is no text from the given octet on. -/
  | notText (position : Position) (field index : Nat)
  /-- A column that is asked for occurs twice. -/
  | duplicateColumn (position : Position) (name : String)
  | unreadable (reason : String)
  deriving DecidableEq, Repr

def Problem.message : Problem → String
  | fieldCount p found expected =>
    s!"CSV error: record {p.record} (line: {p.line}, byte: {p.byte}): " ++
      s!"found record with {found} fields, but the previous record has {expected} fields"
  | notText p field index =>
    s!"CSV parse error: record {p.record} (line {p.line}, field: {field}, byte: {p.byte}): " ++
      s!"invalid utf-8: invalid UTF-8 in field {field} near byte index {index}"
  | duplicateColumn p name =>
    s!"CSV deserialize error: record {p.record} (line: {p.line}, byte: {p.byte}): " ++
      "duplicate field \x60" ++ name ++ "\x60"
  | unreadable reason => reason

/-! ## Text -/

/-- Octets that count as blanks before a field becomes text. -/
def isBlankOctet (b : UInt8) : Bool :=
  b == 0x20 || b == 0x09 || b == 0x0A || b == 0x0C || b == 0x0D

def trimOctets (octets : List UInt8) : List UInt8 :=
  ((octets.dropWhile isBlankOctet).reverse.dropWhile isBlankOctet).reverse

/-- The fields of a record as text, from the field with the given number on. -/
def textFields (position : Position) (number : Nat) :
    List (List UInt8) → Except Problem (List String)
  | [] => .ok []
  | octets :: rest =>
    match Text.Utf8.decode? octets with
    | .error index => .error (.notText position number index)
    | .ok text => (textFields position (number + 1) rest).map (text :: ·)

end Speedup.Csv
