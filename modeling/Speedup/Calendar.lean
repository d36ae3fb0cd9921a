import Speedup.Text.Digits

/-!
# Dates of moments

A moment is a number of seconds after the beginning of the year 1970. Days are counted in eras of
400 years, which all have the same number of days; a year is taken to begin in March, so that a
leap day is its last.
-/

namespace Speedup.Calendar

structure Day where
  year : Int
  month : Nat
  day : Nat
  deriving DecidableEq, Repr

def daysOfEra : Nat := 146097

/-- The number of days from the first of March of the year 0 to the first of January 1970. -/
def daysBefore1970 : Int := 719468

/-- The day with the given number of days after the first of January 1970. -/
def dayOf (days : Int) : Day :=
  let era := (days + daysBefore1970).fdiv daysOfEra
  let dayOfEra := ((days + daysBefore1970).fmod daysOfEra).toNat
  let yearOfEra := (dayOfEra - dayOfEra / 1460 + dayOfEra / 36524 - dayOfEra / 146096) / 365
  let dayOfYear := dayOfEra - (365 * yearOfEra + yearOfEra / 4 - yearOfEra / 100)
  let monthFromMarch := (5 * dayOfYear + 2) / 153
  let month := if monthFromMarch < 10 then monthFromMarch + 3 else monthFromMarch - 9
  { year := yearOfEra + era * 400 + if month ≤ 2 then 1 else 0
    month
    day := dayOfYear - (153 * monthFromMarch + 2) / 5 + 1 }

def padded (width n : Nat) : String := String.ofList (Text.zeroPadded width (Text.digits n))

def text (seconds : Int) : String :=
  let day := dayOf (seconds.fdiv 86400)
  let second := (seconds.fmod 86400).toNat
  padded 4 day.year.toNat ++ "-" ++ padded 2 day.month ++ "-" ++ padded 2 day.day ++ " " ++
    padded 2 (second / 3600) ++ ":" ++ padded 2 (second / 60 % 60) ++ ":" ++
    padded 2 (second % 60) ++ " UTC"

example : text 951827696 = "2000-02-29 12:34:56 UTC" := by decide +kernel
example : dayOf (-1) = ⟨1969, 12, 31⟩ := by decide +kernel

end Speedup.Calendar
