import FeatureCert.Document.Shape
import FeatureCert.Selection.Basic
import FeatureCert.Violation

/-!
Snapshots and violations as documents, in lenient shapes: what a build step wrote is read back here.
-/
namespace FeatureCert.Document

def stateRecord : Shape State := record fun e =>
  State.mk
    <$> required e "enabled" lenientBool
    <*> optional e "value" none (nullable lenientInt)
    <*> optional e "explicit" false lenientBool
    <* closed e ["enabled", "value", "explicit"]

def state : Shape State
  | .state s => .good s
  | v => stateRecord v

def states : Shape (List (String × State)) := fun v =>
  match entries? v with
  | some entries =>
    (Checked.all (fun (key, item) =>
      Prod.mk
        <$> ((text key).under (.key "[key]")).under (keyStep key)
        <*> (state item).under (keyStep key)) entries).map Selection.collect
  | none => .fail .dictType

def snapshot : Shape Snapshot := record fun e =>
  Snapshot.mk <$> optional e "states" [] states <* closed e ["states"]

/-- What a violation of a kind says, out of its fields. -/
def problem (e : List (Value × Value)) : ViolationKind → Checked Problem
  | .unknownCapability => .good .unknownCapability
  | .invalidValue => .invalidValue <$> required e "value" text <*> required e "expected" text
  | .missingDependency =>
    .missingDependency <$> required e "target" text <*> optional e "note" none (nullable text)
  | .unsatisfiedAny =>
    .unsatisfiedAny <$> required e "targets" (sequenceOf text)
      <*> optional e "note" none (nullable text)
  | .conflictingExclusion =>
    .conflictingExclusion <$> required e "target" text <*> optional e "note" none (nullable text)
  | .outOfRangeParameter =>
    .outOfRangeParameter <$> required e "value" lenientInt <*> required e "minimum" lenientInt
      <*> required e "maximum" lenientInt <*> optional e "note" none (nullable text)

def violationFields : ViolationKind → List String
  | .unknownCapability => ["subject", "kind"]
  | .invalidValue => ["subject", "kind", "value", "expected"]
  | .missingDependency => ["subject", "kind", "target", "note"]
  | .unsatisfiedAny => ["subject", "kind", "targets", "note"]
  | .conflictingExclusion => ["subject", "kind", "target", "note"]
  | .outOfRangeParameter => ["subject", "kind", "value", "minimum", "maximum", "note"]

def violation : Shape Violation := tagged ViolationKind.ofName? ViolationKind.name fun kind e =>
  Violation.mk
    <$> required e "subject" text
    <*> problem e kind
    <* closed e (violationFields kind)

end FeatureCert.Document
