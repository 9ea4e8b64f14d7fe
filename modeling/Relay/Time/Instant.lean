import Relay.Text.Digits

/-!
# Instants

An instant of coordinated universal time and its text, with six places after the seconds.
-/

namespace Relay

/-- Seconds since the start of 1970, and nanoseconds. A second billion of nanoseconds belongs to a leap
second, which is numbered sixty. -/
structure Instant where
  seconds : Int
  nanoseconds : Nat
  deriving Repr, DecidableEq

structure Date where
  year : Int
  month : Nat
  day : Nat
  deriving Repr, DecidableEq

/-- The day that lies `days` after the first of January 1970. Years are counted from March, in eras of
400 years, so that a leap day is the last one of its year. -/
def Date.ofDays (days : Int) : Date :=
  let shifted := days + 719468
  let era := shifted.fdiv 146097
  let dayOfEra := (shifted - era * 146097).toNat
  let yearOfEra := (dayOfEra - dayOfEra / 1460 + dayOfEra / 36524 - dayOfEra / 146096) / 365
  let dayOfYear := dayOfEra - (365 * yearOfEra + yearOfEra / 4 - yearOfEra / 100)
  let monthFromMarch := (5 * dayOfYear + 2) / 153
  let day := dayOfYear - (153 * monthFromMarch + 2) / 5 + 1
  let month := if monthFromMarch < 10 then monthFromMarch + 3 else monthFromMarch - 9
  let year : Int := yearOfEra + era * 400 + (if month ≤ 2 then 1 else 0)
  ⟨year, month, day⟩

namespace Instant

def padded (width n : Nat) : List Char :=
  let digits := Text.natDigits n
  List.replicate (width - digits.length) '0' ++ digits

/-- Four digits; a year outside the first ten thousand carries a sign. -/
def yearChars (year : Int) : List Char :=
  if 0 ≤ year && year ≤ 9999 then padded 4 year.toNat
  else (if year < 0 then '-' else '+') :: padded 4 year.natAbs

/-- The text of an instant, such as `2026-03-01T12:30:00.123456Z`. -/
def chars (t : Instant) : List Char :=
  let date := Date.ofDays (t.seconds.fdiv 86400)
  let second := (t.seconds.fmod 86400).toNat
  let leap := t.nanoseconds / 1000000000
  let micros := t.nanoseconds % 1000000000 / 1000
  yearChars date.year ++ '-' :: padded 2 date.month ++ '-' :: padded 2 date.day ++
    'T' :: padded 2 (second / 3600) ++ ':' :: padded 2 (second / 60 % 60) ++
    ':' :: padded 2 (second % 60 + leap) ++ '.' :: padded 6 micros ++ ['Z']

def text (t : Instant) : String := String.ofList t.chars

end Instant
end Relay
