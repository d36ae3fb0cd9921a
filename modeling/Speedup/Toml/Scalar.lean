import Speedup.Decimal.Basic
import Speedup.Text.Split
import Speedup.Toml.Value

/-!
# Numbers, dates and times of TOML documents

These are written without quotes. Digits may have underscores between them, and whole numbers must
fit into 64 bits. Dates and times must exist; they get a capital T between date and time and lose
zeros at the end of fractions of seconds.
-/

namespace Speedup.Toml

/-! ## Numbers -/

/-- Digits without the underscores, of which each must stand between two digits. -/
def joinDigits? (isDigit : Char → Bool) (cs : List Char) : Option (List Char) :=
  let runs := Text.splitAt '_' cs
  if runs.all fun run => !run.isEmpty && run.all isDigit then some runs.flatten else none

/-- Digits that begin with a zero only if there is no other. -/
def wholeDigits? (cs : List Char) : Option (List Char) :=
  (joinDigits? Char.isDigit cs).filter fun ds => ds.length == 1 || ds.head? != some '0'

def digitValue (c : Char) : Nat :=
  if c.isDigit then c.toNat - '0'.toNat else c.toLower.toNat - 'a'.toNat + 10

def isDigitOf (base : Nat) (c : Char) : Bool :=
  (c.isDigit || ('a' ≤ c.toLower && c.toLower ≤ 'f')) && digitValue c < base

def based? (base : Nat) (cs : List Char) : Option Int :=
  ((joinDigits? (isDigitOf base) cs).map (·.foldl (fun n c => base * n + digitValue c) 0)).filter
    (· < UInt64.size / 2) |>.map Int.ofNat

/-- The sign in front of a number, which may be a plus, and the rest. -/
def splitSign (cs : List Char) : List Char × List Char :=
  match cs with
  | '-' :: rest => (['-'], rest)
  | '+' :: rest => ([], rest)
  | _ => ([], cs)

def integer? (cs : List Char) : Option Int :=
  match cs with
  | '0' :: 'x' :: rest => based? 16 rest
  | '0' :: 'o' :: rest => based? 8 rest
  | '0' :: 'b' :: rest => based? 2 rest
  | _ =>
    let (sign, digits) := splitSign cs
    (wholeDigits? digits).bind fun ds => Text.int64? (sign ++ ds)

def exponent? (cs : List Char) : Option Int :=
  let (sign, digits) := splitSign cs
  (joinDigits? Char.isDigit digits).map fun ds =>
    let n : Int := Text.digitsValue 0 ds
    if sign.isEmpty then n else -n

def decimal? (cs : List Char) : Option Decimal := do
  let isExponent := fun c => c = 'e' || c = 'E'
  let mantissa := cs.takeWhile fun c => !isExponent c
  let after := cs.dropWhile fun c => !isExponent c
  let exponent ← match after with
    | [] => some 0
    | _ :: rest => exponent? rest
  match Text.splitAt '.' mantissa with
  | [whole] =>
    if after.isEmpty then none
    else
      let whole ← wholeDigits? whole
      some ⟨Text.digitsValue 0 whole, exponent⟩
  | [whole, fraction] =>
    let whole ← wholeDigits? whole
    let fraction ← joinDigits? Char.isDigit fraction
    some ⟨Text.digitsValue 0 (whole ++ fraction), exponent - fraction.length⟩
  | _ => none

/-- A number that is not whole, or no number. Numbers beyond all doubles are refused. -/
def float? (cs : List Char) : Option Double :=
  let (sign, body) := splitSign cs
  let negative := !sign.isEmpty
  match String.ofList body with
  | "inf" => some (Double.infinity negative)
  | "nan" => some (Double.nan negative)
  | _ => ((decimal? body).map (·.toDouble negative)).filter (·.isFinite)

/-! ## Dates and times -/

def fixedDigits? (count : Nat) (cs : List Char) : Option (List Char × List Char) :=
  let ds := cs.take count
  if ds.length = count && ds.all Char.isDigit then some (ds, cs.drop count) else none

def twoDigits? (least greatest : Nat) (cs : List Char) : Option (List Char × List Char) :=
  (fixedDigits? 2 cs).filter fun (ds, _) =>
    least ≤ Text.digitsValue 0 ds && Text.digitsValue 0 ds ≤ greatest

def after? (c : Char) : List Char → Option (List Char)
  | [] => none
  | d :: rest => if c = d then some rest else none

def isLeapYear (year : Nat) : Bool :=
  year % 4 == 0 && (year % 100 != 0 || year % 400 == 0)

def daysOf (year month : Nat) : Nat :=
  if month = 2 then if isLeapYear year then 29 else 28
  else if month ∈ [4, 6, 9, 11] then 30
  else 31

def date? (cs : List Char) : Option (List Char × List Char) := do
  let (year, rest) ← fixedDigits? 4 cs
  let (month, rest) ← twoDigits? 1 12 (← after? '-' rest)
  let days := daysOf (Text.digitsValue 0 year) (Text.digitsValue 0 month)
  let (day, rest) ← twoDigits? 1 days (← after? '-' rest)
  some (year ++ '-' :: month ++ '-' :: day, rest)

/-- The fraction of a second after its point: nine digits at most, without zeros at the end. -/
def fraction (digits : List Char) : List Char :=
  match ((digits.take 9).reverse.dropWhile (· = '0')).reverse with
  | [] => []
  | ds => '.' :: ds

def time? (cs : List Char) : Option (List Char × List Char) := do
  let (hour, rest) ← twoDigits? 0 23 cs
  let (minute, rest) ← twoDigits? 0 59 (← after? ':' rest)
  let (second, rest) ← twoDigits? 0 60 (← after? ':' rest)
  let time := hour ++ ':' :: minute ++ ':' :: second
  match after? '.' rest with
  | none => some (time, rest)
  | some rest =>
    let (digits, rest) := Text.spanDigits rest
    if digits.isEmpty then none else some (time ++ fraction digits, rest)

/-- The distance from universal time, which may be missing. -/
def offset? (cs : List Char) : Option (List Char) :=
  match cs with
  | [] => some []
  | ['Z'] => some ['Z']
  | ['z'] => some ['Z']
  | sign :: rest =>
    if sign = '+' || sign = '-' then do
      let (hour, rest) ← twoDigits? 0 23 rest
      let (minute, rest) ← twoDigits? 0 59 (← after? ':' rest)
      let zero := Text.digitsValue 0 (hour ++ minute) = 0
      if rest.isEmpty then some ((if zero then '+' else sign) :: hour ++ ':' :: minute) else none
    else none

def isDateEnd (c : Char) : Bool := c = 'T' || c = 't' || c = ' '

/-- A date, a time or both in standard form. -/
def datetime? (cs : List Char) : Option String := do
  match date? cs with
  | some (date, []) => some (String.ofList date)
  | some (date, c :: rest) =>
    if isDateEnd c then
      let (time, rest) ← time? rest
      let offset ← offset? rest
      some (String.ofList (date ++ 'T' :: time ++ offset))
    else none
  | none =>
    match ← time? cs with
    | (time, []) => some (String.ofList time)
    | _ => none

/-! ## All of them -/

def isScalarChar (c : Char) : Bool :=
  c.isAlphanum || c = '_' || c = '+' || c = '-' || c = '.' || c = ':'

/-- A value without quotes and what follows it. A date may have a blank before its time. -/
def spanScalar (cs : List Char) : List Char × List Char :=
  let front := cs.takeWhile isScalarChar
  let rest := cs.dropWhile isScalarChar
  match rest with
  | ' ' :: d :: more =>
    if (date? front).map (·.2) == some [] && d.isDigit then
      (front ++ ' ' :: (d :: more).takeWhile isScalarChar, (d :: more).dropWhile isScalarChar)
    else (front, rest)
  | _ => (front, rest)

def scalar? (cs : List Char) : Option Value :=
  match String.ofList cs with
  | "true" => some (.boolean true)
  | "false" => some (.boolean false)
  | _ =>
    ((integer? cs).map Value.integer) <|> ((float? cs).map Value.float) <|>
      ((datetime? cs).map Value.datetime)

example : datetime? "1979-05-27 07:32:00.500z".toList = some "1979-05-27T07:32:00.5Z" := by
  decide +kernel
example : integer? "-1_000".toList = some (-1000) := by decide +kernel
example : integer? "01".toList = none := by decide +kernel

end Speedup.Toml
