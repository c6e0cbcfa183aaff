import FeatureCert.Catalog.Queries
import FeatureCert.Validation.Normal

/-!
Verdicts: a selection is certified when it has no problem of its own and its snapshot breaks no rule;
else every violation is listed. The selection's problems come first, in order, and then the broken
rules by the catalog position of their subject.
-/
namespace FeatureCert

/-- Proof that a selection was accepted: the snapshot that it stands for. -/
structure Certificate where
  catalogId : String
  snapshot : Snapshot
  deriving DecidableEq, Repr

structure Verdict where
  catalogId : String
  certificate : Option Certificate
  violations : List Violation
  checkedRules : Nat
  enabledCount : Nat
  deriving DecidableEq, Repr

def Verdict.passed (v : Verdict) : Bool := v.violations.isEmpty

/-- Violation of a range by the value in effect, while the owner is on. -/
def Catalog.checkRange (catalog : Catalog) (s : Snapshot) (r : Rule) (minimum maximum : Int) :
    Option Violation := do
  let c ← catalog.lookup? r.subject
  let owner ← c.owner
  if s.isEnabled owner then
    let value := (s.valueOf? r.subject).getD c.default.toInt
    if minimum ≤ value ∧ value ≤ maximum then none
    else some ⟨r.subject, .outOfRangeParameter value minimum maximum r.note⟩
  else none

def Catalog.check (catalog : Catalog) (s : Snapshot) (r : Rule) : Option Violation :=
  match r.constraint with
  | .requires target =>
    if s.isEnabled r.subject && !s.isEnabled target then
      some ⟨r.subject, .missingDependency target r.note⟩
    else none
  | .requiresAny targets =>
    if s.isEnabled r.subject && !targets.any s.isEnabled then
      some ⟨r.subject, .unsatisfiedAny targets r.note⟩
    else none
  | .excludes target =>
    if s.isEnabled r.subject && s.isEnabled target then
      some ⟨r.subject, .conflictingExclusion target r.note⟩
    else none
  | .range minimum maximum => catalog.checkRange s r minimum maximum

/-- Violations of all rules, subject by subject. -/
def RuleSet.violations {catalog : Catalog} (rules : RuleSet catalog) (s : Snapshot) :
    List Violation :=
  catalog.identifiers.flatMap fun name => (rules.withSubject name).filterMap (catalog.check s)

/-- Verdict on a snapshot with the problems of the selection that it came from. -/
def RuleSet.verdict {catalog : Catalog} (rules : RuleSet catalog) (s : Snapshot)
    (problems : List Violation) : Verdict :=
  let violations := problems ++ rules.violations s
  { catalogId := catalog.id
    certificate := if violations.isEmpty then some ⟨catalog.id, s⟩ else none
    violations
    checkedRules := rules.rules.length
    enabledCount := s.enabledNames.length }

end FeatureCert
