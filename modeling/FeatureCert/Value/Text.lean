import FeatureCert.Value.Basic
import FeatureCert.Text.Quoted

/-!
Text of values: `inspect` writes a value so that its kind shows (texts in quotes, containers in
brackets), `display` writes a bare text as it is. Both refuse an integer over the digit limit. A container
inside itself is written as dots in its brackets.
-/
namespace FeatureCert.Value

open FeatureCert.Text FeatureCert.Numeral

def inspectOffset (seconds : Int) : String :=
  if seconds = 0 then "datetime.timezone.utc"
  else
    let days := seconds.fdiv 86400
    let rest := seconds - days * 86400
    let span :=
      if days = 0 then s!"seconds={rest}"
      else if rest = 0 then s!"days={days}"
      else s!"days={days}, seconds={rest}"
    "datetime.timezone(datetime.timedelta(" ++ span ++ "))"

/-- Constructor form of a moment, without seconds and microseconds that are zero. -/
def inspectMoment (t : Moment) : String :=
  let parts := [t.date.year, t.date.month, t.date.day, t.hour, t.minute]
  let fine :=
    if t.microsecond != 0 then [t.second, t.microsecond]
    else if t.second != 0 then [t.second]
    else []
  let zone := match t.offset with
    | none => []
    | some seconds => ["tzinfo=" ++ inspectOffset seconds]
  "datetime.datetime(" ++ ", ".intercalate ((parts ++ fine).map toString ++ zone) ++ ")"

/-- Brackets of a container that stands inside itself. -/
def dots : Value → String
  | .dict _ => "\x7b...\x7d"
  | _ => "[...]"

def switchText (b : Bool) : String := if b then "True" else "False"

/-- Fields of a state, each behind its name. -/
def stateParts (s : State) : Except DigitLimit (List String) := do
  let value ← match s.value with
    | none => pure "None"
    | some n => decimal n
  return [s!"enabled={switchText s.enabled}", s!"value={value}",
    s!"explicit={switchText s.explicit}"]

mutual

/-- Text that shows a value's kind; `around` holds the labels of the containers around it, with the text
that stands for each. -/
def inspectIn (around : List (Nat × String)) : Value → Except DigitLimit String
  | .null => .ok "None"
  | .bool b => .ok (switchText b)
  | .int n => decimal n
  | .float x => .ok x.text
  | .text s => .ok (quoted s)
  | .list items => do
    let parts ← inspectAll around items
    return "[" ++ ", ".intercalate parts ++ "]"
  | .dict entries => do
    let parts ← inspectEntries around entries
    return "\x7b" ++ ", ".intercalate parts ++ "\x7d"
  | .date d => .ok s!"datetime.date({d.year}, {d.month}, {d.day})"
  | .moment t => .ok (inspectMoment t)
  | .bytes octets => .ok (quotedBytes octets)
  | .tuple items => do
    let parts ← inspectAll around items
    return match parts with
      | [part] => "(" ++ part ++ ",)"
      | _ => "(" ++ ", ".intercalate parts ++ ")"
  | .set items => do
    let parts ← inspectAll around items
    return if parts.isEmpty then "set()" else "\x7b" ++ ", ".intercalate parts ++ "\x7d"
  | .state s => do return "CapabilityState(" ++ ", ".intercalate (← stateParts s) ++ ")"
  | .knot label whole =>
    match around.lookup label with
    | some brackets => .ok brackets
    | none => inspectIn ((label, dots whole) :: around) whole
  | .again label => .ok ((around.lookup label).getD "[...]")

def inspectAll (around : List (Nat × String)) : List Value → Except DigitLimit (List String)
  | [] => .ok []
  | v :: rest => do
    let part ← inspectIn around v
    let parts ← inspectAll around rest
    return part :: parts

def inspectEntries (around : List (Nat × String)) :
    List (Value × Value) → Except DigitLimit (List String)
  | [] => .ok []
  | (k, v) :: rest => do
    let key ← inspectIn around k
    let item ← inspectIn around v
    let parts ← inspectEntries around rest
    return (key ++ ": " ++ item) :: parts

end

/-- Text that shows a value's kind. -/
def inspect (v : Value) : Except DigitLimit String := inspectIn [] v

/-- Text of a value, a text standing for itself. -/
def display : Value → Except DigitLimit String
  | .text s => .ok s
  | .date d => .ok d.text
  | .moment t => .ok (t.text " ")
  | .state s => do return " ".intercalate (← stateParts s)
  | v => inspect v

end FeatureCert.Value
