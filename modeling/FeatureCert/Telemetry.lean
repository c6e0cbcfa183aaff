import FeatureCert.Tables

/-!
Events for a trace: a verdict and each of its violations become events with named attributes.
-/
namespace FeatureCert.Telemetry

open FeatureCert.Log FeatureCert.Numeral

structure Event where
  name : String
  attributes : List (String × Value)

/-- A name in the program's own space. -/
def namespaced (name : String) : String := "cryptoconf." ++ name

def event (name : String) (attributes : List (String × Value)) : Event :=
  ⟨namespaced name, Selection.collect (attributes.map fun (key, v) => (namespaced key, v))⟩

/-- An event whose attributes have names of any kind, each standing as its text. -/
def eventOf (name : String) (attributes : List (Value × Value)) : Except DigitLimit Event := do
  let named ← attributes.mapM fun (key, v) => do return (← key.display, v)
  return event name named

def subjectLimit : Nat := 3

/-- Summary of a verdict. -/
def verdictEvent (v : Verdict) : Event :=
  let counts := (countByKind v.violations).mergeSort fun a b => decide (a.1.name ≤ b.1.name)
  event "validation.result" <|
    [("catalog_id", .text v.catalogId), ("passed", .bool v.passed),
      ("violation_count", .int v.violations.length), ("checked_rules", .int v.checkedRules),
      ("enabled_count", .int v.enabledCount)] ++
    counts.map (fun (kind, n) => ("violations." ++ kind.name, .int n)) ++
    (v.violations.take subjectLimit).zipIdx.map fun (w, i) => (s!"subject.{i}", .text w.subject)

def verdictRecord (v : Verdict) : Record :=
  let word := if v.passed then "passed" else "failed"
  ⟨debug, "cryptoconf.validation.otel",
    s!"Validation {word}: catalog={v.catalogId} enabled={v.enabledCount} " ++
      s!"violations={v.violations.length}"⟩

def violationEvent (v : Violation) : Traced Failure Event := do
  let message ← Traced.mapError .ofDigitLimit v.line
  Traced.write info "cryptoconf.validation.otel" ("Configuration violation: " ++ message)
  return event "validation.violation"
    [("kind", .text v.kind.name), ("subject", .text v.subject), ("message", .text message)]

/-- Events of a verdict: its summary, then each violation. -/
def report (v : Verdict) : Traced Failure (List Event) := do
  Traced.writeAll [verdictRecord v]
  let events ← v.violations.mapM violationEvent
  return verdictEvent v :: events

end FeatureCert.Telemetry
