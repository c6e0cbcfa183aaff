import FeatureCert.Calendar
import FeatureCert.Numeral.Literal
import FeatureCert.Yaml.Cursor

/-!
Timestamps in a YAML text: a date, or a date and a time of day with an optional fraction and an optional
distance from universal time. A text may have the form of a timestamp and name no day that exists.
-/
namespace FeatureCert.Yaml

open FeatureCert.Numeral

/-- Parts of a timestamp as they are written. -/
structure Timestamp where
  date : Date
  /-- Whether month and day have two digits each. -/
  isPadded : Bool
  time : Option (Nat × Nat × Nat)
  fraction : List Char
  /-- Sign, hours and minutes from universal time. -/
  zone : Option (Bool × Nat × Nat)

namespace Timestamp

/-- A number of at least `least` and at most `most` digits, how many it has, and what follows. -/
def number? (least most : Nat) (cs : List Char) : Option (Nat × Nat × List Char) :=
  let digits := (cs.take most).takeWhile Char.isDigit
  if least ≤ digits.length then
    some (ofDigits 10 (digits.filterMap (digitIn? 10)), digits.length, cs.drop digits.length)
  else none

def after? (mark : Char) (cs : List Char) : Option (List Char) :=
  match cs with
  | c :: rest => if c == mark then some rest else none
  | [] => none

def isBlank (c : Char) : Bool := c == ' ' || c == '\t'

/-- Date at the start of a text, whether it is padded, and what follows. -/
def date? (cs : List Char) : Option (Date × Bool × List Char) := do
  let (year, _, cs) ← number? 4 4 cs
  let (month, monthWidth, cs) ← number? 1 2 (← after? '-' cs)
  let (day, dayWidth, cs) ← number? 1 2 (← after? '-' cs)
  return (⟨year, month, day⟩, monthWidth == 2 && dayWidth == 2, cs)

/-- Separator of date and time: the letter T, or blanks. -/
def separator? (cs : List Char) : Option (List Char) :=
  match cs with
  | c :: rest =>
    if c == 'T' || c == 't' then some rest
    else if isBlank c then some (rest.dropWhile isBlank)
    else none
  | [] => none

/-- Distance from universal time that ends a text. -/
def zone? (cs : List Char) : Option (Option (Bool × Nat × Nat)) :=
  match cs.dropWhile isBlank with
  | [] => if cs.isEmpty then some none else none
  | 'Z' :: rest => if rest.isEmpty then some (some (false, 0, 0)) else none
  | sign :: rest => do
    if sign != '+' && sign != '-' then none
    let (hours, _, rest) ← number? 1 2 rest
    match rest with
    | [] => return some (sign == '-', hours, 0)
    | _ =>
      let (minutes, _, rest) ← number? 2 2 (← after? ':' rest)
      if rest.isEmpty then return some (sign == '-', hours, minutes) else none

/-- Reads a text that has the form of a timestamp. -/
def ofText? (cs : List Char) : Option Timestamp := do
  let (date, isPadded, cs) ← date? cs
  if cs.isEmpty then return ⟨date, isPadded, none, [], none⟩
  else
    let (hour, _, cs) ← number? 1 2 (← separator? cs)
    let (minute, _, cs) ← number? 2 2 (← after? ':' cs)
    let (second, _, cs) ← number? 2 2 (← after? ':' cs)
    let (fraction, cs) := match cs with
      | '.' :: rest => rest.span Char.isDigit
      | _ => ([], cs)
    return ⟨date, isPadded, some (hour, minute, second), fraction, ← zone? cs⟩

/-- A plain text with a bare date is a timestamp only if the date is padded. -/
def isPlain (t : Timestamp) : Bool := t.time.isSome || t.isPadded

/-- Microseconds of a fraction; digits behind the sixth are dropped. -/
def microseconds (fraction : List Char) : Nat :=
  let digits := (fraction ++ List.replicate 6 '0').take 6
  ofDigits 10 (digits.filterMap (digitIn? 10))

/-- Seconds from universal time; less than a day. -/
def offset : Bool × Nat × Nat → Except Fault Int
  | (negative, hours, minutes) =>
    let seconds := hours * 3600 + minutes * 60
    if seconds < 86400 then .ok (signed negative seconds) else .error .noSuchValue

def moment (t : Timestamp) (hour minute second : Nat) : Except Fault Moment := do
  let zone ← t.zone.mapM offset
  if t.date.exists? && hour < 24 && minute < 60 && second < 60 then
    return ⟨t.date, hour, minute, second, microseconds t.fraction, zone⟩
  else throw .noSuchValue

end Timestamp
end FeatureCert.Yaml
