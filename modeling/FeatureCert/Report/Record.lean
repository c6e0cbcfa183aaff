import FeatureCert.Json.Basic
import FeatureCert.Report.Lines

/-!
Reports as JSON records: the fields of a violation, and a summary of a verdict with the definitions of
what its certificate turns on.
-/
namespace FeatureCert

open FeatureCert.Text FeatureCert.Numeral

/-- Fields of a violation, its subject and kind first. -/
def Violation.fields (v : Violation) : List (Points × Json) :=
  let own : List (Points × Json) := match v.problem with
    | .unknownCapability => []
    | .invalidValue value expected => [("value", .text value), ("expected", .text expected)]
    | .missingDependency target note => [("target", .text target), ("note", .ofText? note)]
    | .unsatisfiedAny targets note => [("targets", .texts targets), ("note", .ofText? note)]
    | .conflictingExclusion target note => [("target", .text target), ("note", .ofText? note)]
    | .outOfRangeParameter value minimum maximum note =>
      [("value", .int value), ("minimum", .int minimum), ("maximum", .int maximum),
        ("note", .ofText? note)]
  ("subject", .text v.subject) :: ("kind", .text v.kind.name) :: own

def Violation.record (v : Violation) : Except DigitLimit Json := do
  let message ← v.line
  let last : Points × Json := ("message", .text message)
  return .record (v.fields ++ [last])

def Verdict.record (v : Verdict) : Except DigitLimit Json := do
  let violations ← v.violations.mapM Violation.record
  let summary : List (Points × Json) := [
    ("passed", .bool v.passed),
    ("catalog_id", .text v.catalogId),
    ("checked_rules", .int v.checkedRules),
    ("enabled_count", .int v.enabledCount),
    ("violations", .list violations)]
  match v.certificate with
  | none => return .record summary
  | some c =>
    let defines ← c.snapshot.defines ""
    let certificate : Points × Json := ("certificate", .record [
      ("enabled", .texts c.snapshot.enabledNames),
      ("defines", .texts defines)])
    return .record (summary ++ [certificate])

end FeatureCert
