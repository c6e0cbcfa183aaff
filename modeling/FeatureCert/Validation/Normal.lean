import FeatureCert.Selection.Basic
import FeatureCert.Violation

/-!
Normal form of a selection over a catalog: a state for every capability, and the entries that name
nothing or assign a value that does not fit. Entries are taken in one after the other. Each settles its
capability anew, or unsettles it where the value does not fit; what is not settled at the end has its
default.
-/
namespace FeatureCert

open FeatureCert.Numeral

/-- State that an assignment gives to a capability, if it fits. -/
def Capability.accept (c : Capability) (assigned : Value) : Option State :=
  match c.kind, assigned with
  | .parameter, .state s => some { s with value := s.value <|> some c.default.toInt }
  | .parameter, .null => some ⟨true, some c.default.toInt, true⟩
  | .parameter, .bool false => some ⟨false, some c.default.toInt, true⟩
  | .parameter, .int n => some ⟨true, some n, true⟩
  | .parameter, _ => none
  | _, .state s => some { s with value := none }
  | _, .null => some ⟨true, none, true⟩
  | _, .bool b => some ⟨b, none, true⟩
  | _, .int n => if n = 0 ∨ n = 1 then some ⟨n = 1, none, true⟩ else none
  | _, _ => none

def Capability.expected (c : Capability) : String :=
  match c.kind with
  | .parameter => "int"
  | _ => "bool"

/-- What one entry comes to. -/
inductive Judgement where
  | unknown (subject : String)
  | unfit (name value expected : String)
  | settled (name : String) (state : State)
  deriving DecidableEq, Repr

/-- Capability that a value names. -/
def Catalog.named? (catalog : Catalog) : Value → Option Capability
  | .text name => catalog.lookup? name
  | _ => none

def Catalog.judge (catalog : Catalog) (e : Entry) : Except DigitLimit Judgement :=
  match catalog.named? e.name with
  | none => do return .unknown (← e.name.display)
  | some c =>
    match c.accept e.assigned with
    | some state => .ok (.settled c.name state)
    | none => do return .unfit c.name (← e.assigned.inspect) c.expected

/-- What the entries taken in so far leave: the states that they settle, and their problems in order. -/
structure Intake where
  settled : List (String × State) := []
  problems : List Violation := []
  deriving DecidableEq, Repr

namespace Intake

/-- State that a name is settled to. -/
def state? (i : Intake) (name : String) : Option State := i.settled.lookup name

def add (i : Intake) : Judgement → Intake
  | .unknown subject => ⟨i.settled, i.problems ++ [⟨subject, .unknownCapability⟩]⟩
  | .unfit name value expected =>
    ⟨i.settled.filter (·.1 != name), i.problems ++ [⟨name, .invalidValue value expected⟩]⟩
  | .settled name state => ⟨Selection.put i.settled name state, i.problems⟩

end Intake

/-- Takes in entries in order, behind those that are in. -/
def Catalog.takeIn (catalog : Catalog) (i : Intake) : List Entry → Except DigitLimit Intake
  | [] => .ok i
  | e :: rest => do
    let judgement ← catalog.judge e
    catalog.takeIn (i.add judgement) rest

/-- The states that an intake leaves, in catalog order. -/
def Catalog.snapshotOf (catalog : Catalog) (i : Intake) : Snapshot :=
  ⟨catalog.capabilities.map fun c => (c.name, (i.state? c.name).getD c.defaultState)⟩

/-- Normal form of a selection: its snapshot, and its own problems in order. -/
def Catalog.normalize (catalog : Catalog) (selection : List Entry) :
    Except DigitLimit (Snapshot × List Violation) := do
  let i ← catalog.takeIn {} selection
  return (catalog.snapshotOf i, i.problems)

end FeatureCert
