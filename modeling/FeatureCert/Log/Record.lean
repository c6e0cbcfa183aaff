import FeatureCert.Json.Basic
import FeatureCert.Text.Lower
import FeatureCert.Value.Text

/-!
Log records, and their lines: plain text for a terminal, or one JSON record for a collector.
-/
namespace FeatureCert.Log

/-- Severity of a record, a greater number being graver. -/
abbrev Level := Int

def debug : Level := 10

def info : Level := 20

def warning : Level := 30

/-- Name of a level; one without a name of its own shows its number. -/
def levelName (level : Level) : String :=
  match level with
  | 0 => "NOTSET"
  | 10 => "DEBUG"
  | 20 => "INFO"
  | 30 => "WARNING"
  | 40 => "ERROR"
  | 50 => "CRITICAL"
  | n => s!"Level {n}"

open FeatureCert.Text

/-- Fields of a JSON line; `name` is that of a level, and `failure` the text of an error that is reported. -/
def jsonFields (timestamp name logger message : Points) (failure : Option Points) :
    List (Points × Points) :=
  let always : List (Points × Points) :=
    [("timestamp", timestamp), ("level", lowerCase name), ("logger", logger), ("message", message)]
  always ++ (failure.map fun text => (("exception" : Points), text)).toList

/-- One JSON record on a line of printable ASCII. -/
def jsonLineOf (timestamp name logger message : Points) (failure : Option Points) : String :=
  "\x7b" ++ ", ".intercalate ((jsonFields timestamp name logger message failure).map
    fun (key, value) => Json.quote key ++ ": " ++ Json.quote value) ++ "\x7d"

structure Record where
  level : Level
  logger : String
  message : String
  deriving DecidableEq, Repr

namespace Record

def plainLine (r : Record) : String := s!"{levelName r.level} {r.logger}: {r.message}"

def jsonLine (r : Record) (timestamp : String) (failure : Option Points) : String :=
  jsonLineOf timestamp (levelName r.level) r.logger r.message failure

end Record

/-- Why a line, or a part of it, has no text. -/
inductive LineFault where
  /-- An argument is missing, left over or of another kind. -/
  | mismatch
  /-- A template, a number or a time breaks a rule. -/
  | malformed
  | missingKey
  /-- A number that is too large for its place. -/
  | tooLarge
  /-- A time that no calendar year has. -/
  | beyondClock
  /-- A text that is too long to be held. -/
  | tooLong
  deriving DecidableEq, Repr

/-- Microseconds of a number of seconds; a part of a microsecond is rounded, half to even. -/
def microseconds (seconds : Binary64) : Except LineFault Int :=
  match seconds, seconds.ratio? with
  | _, some (n, d) =>
    let whole := n.tdiv d
    let part := Binary64.ofRatio (n - whole * d < 0) (n - whole * d).natAbs d
    match (part.mul (.ofInt 1000000)).ratio? with
    | some (m, e) =>
      let rounded : Int := Binary64.roundDiv m.natAbs e
      .ok (whole * 1000000 + (if m < 0 then -rounded else rounded))
    | none => .error .malformed
  | .infinite _, none => .error .tooLarge
  | _, none => .error .malformed

/-- First microsecond of the year 1, counted from the start of 1970. -/
def firstMicrosecond : Int := -62135596800000000

/-- First microsecond behind the year 9999. -/
def endMicrosecond : Int := 253402300800000000

/-- First and last second of the years that a word of 32 bits can count from 1900 on. -/
def clockSeconds : Int × Int := (-67768040609740800, 67768036191676799)

/-- Timestamp of a number of microseconds since the start of 1970, in years of one to four digits. -/
def timestamp (microseconds : Int) : Except LineFault String :=
  let seconds := microseconds.fdiv 1000000
  if firstMicrosecond ≤ microseconds && microseconds < endMicrosecond then
    .ok ((Moment.ofMicroseconds microseconds).text "T")
  else if clockSeconds.1 ≤ seconds && seconds ≤ clockSeconds.2 then .error .malformed
  else if -0x8000000000000000 ≤ seconds && seconds < 0x8000000000000000 then .error .beyondClock
  else .error .tooLarge

def microsecondsOf (created : Value) : Except LineFault Int :=
  match created with
  | .int n => .ok (n * 1000000)
  | .bool b => .ok (if b then 1000000 else 0)
  | .float x => microseconds x
  | _ => .error .mismatch

def timestampOf (created : Value) : Except LineFault String := do timestamp (← microsecondsOf created)

/-- An error that a record reports, with what it was raised for. -/
inductive Reported where
  | value (v : Value)
  | key (v : Value)

/-- Name of the error, with its detail behind a colon. -/
def Reported.text (r : Reported) : String :=
  let (name, detail) := match r with
    | .value v => ("ValueError", v.display)
    | .key v => ("KeyError", v.inspect)
  match detail with
  | .ok detail => if detail.isEmpty then name else name ++ ": " ++ detail
  | .error _ => name ++ ": <exception str() failed>"

end FeatureCert.Log
