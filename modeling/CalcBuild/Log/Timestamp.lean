/-
**Times of log lines.**

A time is a number of microseconds since the beginning of 1970. It is written as a date and a time
of day in the proleptic Gregorian calendar, with six decimals and a `Z` for the zone.

* `civil`: the date of a day, counted from the first of March of the year 0 in eras of 400 years;
* `stamp`: the written form of a time.
-/

import CalcBuild.Number.Decimal

namespace CalcBuild.Log

/-- A date. -/
structure Civil where
  year : Nat
  month : Nat
  day : Nat
  deriving DecidableEq, Repr

/-- The days from the first of March of the year 0 to the first of January 1970. -/
def epochDay : Nat := 719468

/-- The days of an era of 400 years. -/
def eraDays : Nat := 146097

/-- The date of a day, counted from the beginning of 1970. Years begin in March here, so the day
that is added to leap years is the last one of its year. -/
def civil (day : Nat) : Civil :=
  let shifted := day + epochDay
  let dayOfEra := shifted % eraDays
  let yearOfEra := (dayOfEra - dayOfEra / 1460 + dayOfEra / 36524 - dayOfEra / 146096) / 365
  let dayOfYear := dayOfEra - (365 * yearOfEra + yearOfEra / 4 - yearOfEra / 100)
  let monthFromMarch := (5 * dayOfYear + 2) / 153
  let month := if monthFromMarch < 10 then monthFromMarch + 3 else monthFromMarch - 9
  let year := shifted / eraDays * 400 + yearOfEra + (if month ≤ 2 then 1 else 0)
  ⟨year, month, dayOfYear - (153 * monthFromMarch + 2) / 5 + 1⟩

/-- The written form of a time in microseconds. -/
def stamp (microseconds : Nat) : String :=
  let seconds := microseconds / 1000000
  let date := civil (seconds / 86400)
  let two (value : Nat) : List Char := Number.padded 2 value
  String.ofList <|
    Number.padded 4 date.year ++ '-' :: two date.month ++ '-' :: two date.day ++
      'T' :: two (seconds / 3600 % 24) ++ ':' :: two (seconds / 60 % 60) ++
      ':' :: two (seconds % 60) ++ '.' :: Number.padded 6 (microseconds % 1000000) ++ ['Z']

end CalcBuild.Log
