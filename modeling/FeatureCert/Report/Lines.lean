import FeatureCert.Rule
import FeatureCert.Validation.Verdict

/-!
Reports in words: one line for each violation and rule, the hint of a rule in brackets at its end.
-/
namespace FeatureCert

open FeatureCert.Numeral

/-- A line with a hint at its end; an empty hint is none. -/
def withNote (body : String) (note : Option String) : String :=
  match note with
  | some hint => if hint.isEmpty then body else s!"{body} ({hint})"
  | none => body

def Rule.line (r : Rule) : Except DigitLimit String := do
  let body ← match r.constraint with
    | .requires target => pure s!"{r.subject} requires {target}"
    | .requiresAny targets => pure (s!"{r.subject} requires one of " ++ ", ".intercalate targets)
    | .excludes target => pure s!"{r.subject} excludes {target}"
    | .range minimum maximum => do
      let low ← decimal minimum
      let high ← decimal maximum
      pure s!"{r.subject} in [{low}, {high}]"
  return withNote body r.note

namespace Violation

/-- What a violation says, without its kind and hint. -/
def body (v : Violation) : Except DigitLimit String :=
  match v.problem with
  | .unknownCapability => .ok s!"{v.subject} is not a known capability"
  | .invalidValue value expected => .ok s!"{v.subject} was given {value}, expected {expected}"
  | .missingDependency target _ => .ok s!"{v.subject} requires {target}, which is disabled"
  | .unsatisfiedAny targets _ =>
    .ok (s!"{v.subject} requires at least one of " ++ ", ".intercalate targets ++
      "; none is enabled")
  | .conflictingExclusion target _ => .ok s!"{v.subject} and {target} cannot both be enabled"
  | .outOfRangeParameter value minimum maximum _ => do
    let given ← decimal value
    let low ← decimal minimum
    let high ← decimal maximum
    return s!"{v.subject} = {given} is outside the allowed range [{low}, {high}]"

def line (v : Violation) : Except DigitLimit String := do
  let body ← v.body
  return s!"[{v.kind.name}] " ++ withNote body v.problem.note

end Violation

/-- Lines of violations, or a word for none. -/
def violationText (violations : List Violation) : Except DigitLimit String :=
  if violations.isEmpty then .ok "no violations"
  else do
    let parts ← violations.mapM Violation.line
    return "\n".intercalate parts

/-- A headline, and the violations under it. -/
def Verdict.text (v : Verdict) : Except DigitLimit String := do
  if v.passed then
    return s!"configuration accepted ({v.enabledCount} capabilities enabled, " ++
      s!"{v.checkedRules} rules checked)\nno violations"
  else
    let body ← violationText v.violations
    return s!"configuration rejected: {v.violations.length} violation(s)\n" ++ body

end FeatureCert
