/-!
Violations: what is inconsistent in a selection, each filed under one name.
-/
namespace FeatureCert

inductive ViolationKind where
  | unknownCapability | invalidValue | missingDependency | unsatisfiedAny | conflictingExclusion
  | outOfRangeParameter
  deriving DecidableEq, Repr

def ViolationKind.name : ViolationKind → String
  | .unknownCapability => "unknown_capability"
  | .invalidValue => "invalid_value"
  | .missingDependency => "missing_dependency"
  | .unsatisfiedAny => "unsatisfied_any"
  | .conflictingExclusion => "conflicting_exclusion"
  | .outOfRangeParameter => "out_of_range_parameter"

def ViolationKind.all : List ViolationKind :=
  [.unknownCapability, .invalidValue, .missingDependency, .unsatisfiedAny, .conflictingExclusion,
    .outOfRangeParameter]

def ViolationKind.ofName? (name : String) : Option ViolationKind :=
  all.find? (·.name == name)

theorem ViolationKind.ofName?_name (k : ViolationKind) : ofName? k.name = some k := by
  cases k <;> decide

inductive Problem where
  | unknownCapability
  /-- `value` is the text of the value that does not fit. -/
  | invalidValue (value expected : String)
  | missingDependency (target : String) (note : Option String)
  | unsatisfiedAny (targets : List String) (note : Option String)
  | conflictingExclusion (target : String) (note : Option String)
  | outOfRangeParameter (value minimum maximum : Int) (note : Option String)
  deriving DecidableEq, Repr

namespace Problem

def kind : Problem → ViolationKind
  | .unknownCapability => .unknownCapability
  | .invalidValue .. => .invalidValue
  | .missingDependency .. => .missingDependency
  | .unsatisfiedAny .. => .unsatisfiedAny
  | .conflictingExclusion .. => .conflictingExclusion
  | .outOfRangeParameter .. => .outOfRangeParameter

/-- Hint of the rule that was broken. -/
def note : Problem → Option String
  | .missingDependency _ note => note
  | .unsatisfiedAny _ note => note
  | .conflictingExclusion _ note => note
  | .outOfRangeParameter _ _ _ note => note
  | _ => none

end Problem

structure Violation where
  subject : String
  problem : Problem
  deriving DecidableEq, Repr

def Violation.kind (v : Violation) : ViolationKind := v.problem.kind

/-- Kinds in a list of violations with their counts, in order of first occurrence. -/
def countByKind (violations : List Violation) : List (ViolationKind × Nat) :=
  violations.foldl (fun counts v =>
    if counts.any (·.1 == v.kind) then
      counts.map fun (kind, n) => if kind == v.kind then (kind, n + 1) else (kind, n)
    else counts ++ [(v.kind, 1)]) []

end FeatureCert
