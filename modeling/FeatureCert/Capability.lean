/-!
Capabilities: the configurable units of a toolkit. A flag or a hook is on or off; a parameter carries a
number.
-/
namespace FeatureCert

inductive CapabilityKind where
  | flag | parameter | hook
  deriving DecidableEq, Repr

def CapabilityKind.name : CapabilityKind → String
  | .flag => "flag"
  | .parameter => "parameter"
  | .hook => "alt_hook"

def CapabilityKind.all : List CapabilityKind := [.flag, .parameter, .hook]

def CapabilityKind.ofName? (name : String) : Option CapabilityKind :=
  all.find? (·.name == name)

theorem CapabilityKind.ofName?_name (k : CapabilityKind) : ofName? k.name = some k := by
  cases k <;> decide

/-- What a capability has when nothing is selected. -/
inductive Default where
  | switch (on : Bool)
  | number (n : Int)
  deriving DecidableEq, Repr

/-- A default as a number, a switch counting as 0 or 1. -/
def Default.toInt : Default → Int
  | .switch on => if on then 1 else 0
  | .number n => n

/-- Whether a default is neither off nor zero. -/
def Default.isOn (d : Default) : Bool := d.toInt != 0

structure Capability where
  name : String
  kind : CapabilityKind := .flag
  default : Default := .switch false
  /-- The flag that a parameter, hook or sub-flag belongs to. -/
  owner : Option String := none
  /-- Label of the group that the capability is listed under. -/
  group : Option String := none
  description : Option String := none
  deriving DecidableEq, Repr

def Capability.isParameter (c : Capability) : Bool := c.kind == .parameter

end FeatureCert
