import FeatureCert.Catalog.Basic
import FeatureCert.Numeral.Decimal
import FeatureCert.State

/-!
Snapshots: the state of every capability at once, in catalog order.
-/
namespace FeatureCert

structure Snapshot where
  states : List (String × State) := []
  deriving DecidableEq, Repr

namespace Snapshot

open FeatureCert.Numeral

def get? (s : Snapshot) (name : String) : Option State :=
  (s.states.find? (·.1 == name)).map (·.2)

def contains (s : Snapshot) (name : String) : Bool := (s.get? name).isSome

/-- Whether a name is on; a name without a state is off. -/
def isEnabled (s : Snapshot) (name : String) : Bool := (s.get? name).any (·.enabled)

def valueOf? (s : Snapshot) (name : String) : Option Int := (s.get? name).bind (·.value)

def names (s : Snapshot) : List String := s.states.map (·.1)

def enabledNames (s : Snapshot) : List String := (s.states.filter (·.2.enabled)).map (·.1)

def explicitNames (s : Snapshot) : List String := (s.states.filter (·.2.explicit)).map (·.1)

def define (lead name : String) (state : State) : Except DigitLimit String :=
  match state.value with
  | none => .ok (lead ++ name)
  | some n => do
    let digits ← decimal n
    return lead ++ name ++ "=" ++ digits

/-- Compiler definitions of everything that is on, each name after `lead`. -/
def defines (s : Snapshot) (lead : String) : Except DigitLimit (List String) :=
  (s.states.filter (·.2.enabled)).mapM fun (name, state) => define lead name state

end Snapshot

def Capability.defaultState (c : Capability) : State :=
  match c.kind with
  | .parameter => ⟨false, some c.default.toInt, false⟩
  | _ => ⟨c.default.isOn, none, false⟩

def Catalog.defaultSnapshot (catalog : Catalog) : Snapshot :=
  ⟨catalog.capabilities.map fun c => (c.name, c.defaultState)⟩

end FeatureCert
