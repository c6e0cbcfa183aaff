import FeatureCert.Numeral.Decimal

/-!
Days and times of the proleptic Gregorian calendar: which dates exist, the date of a day counted from
1970-01-01, and the usual text of both.
-/
namespace FeatureCert

structure Date where
  year : Nat
  month : Nat
  day : Nat
  deriving DecidableEq, Repr

/-- A time of day on a date; `offset` is its distance from universal time in seconds. -/
structure Moment where
  date : Date
  hour : Nat
  minute : Nat
  second : Nat
  microsecond : Nat
  offset : Option Int
  deriving DecidableEq, Repr

namespace Date

open FeatureCert.Numeral

def isLeap (year : Nat) : Bool := year % 4 == 0 && (year % 100 != 0 || year % 400 == 0)

def daysInMonth (year month : Nat) : Nat :=
  if month == 2 then if isLeap year then 29 else 28
  else if month == 4 || month == 6 || month == 9 || month == 11 then 30
  else 31

/-- Whether a date exists; years have one to four digits. -/
def exists? (d : Date) : Bool :=
  1 ≤ d.year && d.year ≤ 9999 && 1 ≤ d.month && d.month ≤ 12 && 1 ≤ d.day &&
    d.day ≤ daysInMonth d.year d.month

/-- Date of a day counted from 1970-01-01, by eras of 400 years that begin in March. -/
def ofDays (days : Int) : Date :=
  let z := days + 719468
  let era := z.fdiv 146097
  let dayOfEra := (z - era * 146097).toNat
  let yearOfEra := (dayOfEra - dayOfEra / 1460 + dayOfEra / 36524 - dayOfEra / 146096) / 365
  let dayOfYear := dayOfEra - (365 * yearOfEra + yearOfEra / 4 - yearOfEra / 100)
  let shifted := (5 * dayOfYear + 2) / 153
  let day := dayOfYear - (153 * shifted + 2) / 5 + 1
  let month := if shifted < 10 then shifted + 3 else shifted - 9
  let year := era * 400 + yearOfEra + (if month ≤ 2 then 1 else 0)
  ⟨year.toNat, month, day⟩

def toDays (d : Date) : Int :=
  let year : Int := if d.month ≤ 2 then (d.year : Int) - 1 else d.year
  let era := year.fdiv 400
  let yearOfEra := year - era * 400
  let shifted : Int := if d.month ≤ 2 then d.month + 9 else d.month - 3
  let dayOfYear := (153 * shifted + 2) / 5 + d.day - 1
  era * 146097 + yearOfEra * 365 + yearOfEra / 4 - yearOfEra / 100 + dayOfYear - 719468

/-- Year, month and day with hyphens between them. -/
def text (d : Date) : String :=
  padded 4 d.year ++ "-" ++ padded 2 d.month ++ "-" ++ padded 2 d.day

end Date

namespace Moment

open FeatureCert.Numeral

/-- Sign, hours and minutes of an offset, and its seconds where there are some. -/
def offsetText (seconds : Int) : String :=
  let n := seconds.natAbs
  let body := padded 2 (n / 3600) ++ ":" ++ padded 2 (n / 60 % 60)
  (if seconds < 0 then "-" else "+") ++ body ++
    (if n % 60 = 0 then "" else ":" ++ padded 2 (n % 60))

/-- Date and time with a separator, the fraction only where it is not zero. -/
def text (separator : String) (t : Moment) : String :=
  t.date.text ++ separator ++ padded 2 t.hour ++ ":" ++ padded 2 t.minute ++ ":" ++
    padded 2 t.second ++ (if t.microsecond = 0 then "" else "." ++ padded 6 t.microsecond) ++
    (t.offset.map offsetText).getD ""

/-- Moment of universal time, in microseconds from the start of 1970. -/
def ofMicroseconds (n : Int) : Moment :=
  let days := n.fdiv 86400000000
  let rest := (n - days * 86400000000).toNat
  let seconds := rest / 1000000
  ⟨.ofDays days, seconds / 3600, seconds / 60 % 60, seconds % 60, rest % 1000000, some 0⟩

/-- Microseconds of universal time from the start of 1970, for a moment whose offset is known. -/
def universal? (t : Moment) : Option Int :=
  t.offset.map fun offset =>
    let seconds := t.date.toDays * 86400 + t.hour * 3600 + t.minute * 60 + t.second - offset
    seconds * 1000000 + t.microsecond

/-- Whether two moments are one: with offsets the same instant, without them the same reading. -/
def isSame (t u : Moment) : Bool :=
  match t.universal?, u.universal? with
  | some m, some n => m == n
  | _, _ => t == u

end Moment
end FeatureCert
