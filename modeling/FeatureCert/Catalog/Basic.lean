import FeatureCert.Capability
import FeatureCert.Catalog.Index
import FeatureCert.Selection.Pairs
import FeatureCert.Text.Quoted

/-!
Catalogs: the ordered table of all capabilities of a toolkit. Names are distinct, defaults fit their
kinds, and owners are flags of the same table; a list that breaks one of these has a fault.
-/
namespace FeatureCert

inductive CapabilityFault where
  /-- A parameter whose default is a switch. -/
  | needsNumber (given : Bool)
  /-- A flag or hook whose default is a number. -/
  | needsSwitch (given : Int)
  | unknownOwner (owner : String)
  | ownsItself
  | ownerNotFlag (owner : String) (kind : CapabilityKind)
  | needsOwner
  deriving DecidableEq, Repr

namespace Capability

/-- First capability of a name. -/
def named? (capabilities : List Capability) (name : String) : Option Capability :=
  capabilities.find? (·.name == name)

def defaultFault? (c : Capability) : Option CapabilityFault :=
  match c.kind, c.default with
  | .parameter, .switch on => some (.needsNumber on)
  | .parameter, .number _ => none
  | _, .switch _ => none
  | _, .number n => some (.needsSwitch n)

def ownerFault? (capabilities : List Capability) (c : Capability) : Option CapabilityFault :=
  match c.owner with
  | none => if c.kind == .flag then none else some .needsOwner
  | some name =>
    match named? capabilities name with
    | none => some (.unknownOwner name)
    | some owner =>
      if owner.name == c.name then some .ownsItself
      else if owner.kind != .flag then some (.ownerNotFlag owner.name owner.kind)
      else none

def fault? (capabilities : List Capability) (c : Capability) : Option CapabilityFault :=
  c.defaultFault? <|> c.ownerFault? capabilities

end Capability

/-- Capabilities under their names. -/
def nameTable (capabilities : List Capability) : List (String × Capability) :=
  Selection.collect (capabilities.map fun c => (c.name, c))

/-- Declaration positions under the names that stand there. -/
def positionTable (capabilities : List Capability) : List (String × Nat) :=
  Selection.collect (capabilities.map (·.name)).zipIdx

/-- Capabilities under the flags that own them. -/
def ownerIndex (capabilities : List Capability) : Index Capability :=
  .ofItems (fun c => c.owner.toList) capabilities

structure Catalog where
  id : String
  capabilities : List Capability
  distinct : (capabilities.map (·.name)).Nodup
  sound : ∀ c ∈ capabilities, c.fault? capabilities = none
  byName : List (String × Capability) := nameTable capabilities
  byName_eq : byName = nameTable capabilities := by rfl
  positions : List (String × Nat) := positionTable capabilities
  positions_eq : positions = positionTable capabilities := by rfl
  byOwner : Index Capability := ownerIndex capabilities
  byOwner_eq : byOwner = ownerIndex capabilities := by rfl

namespace Catalog

def identifiers (catalog : Catalog) : List String := catalog.capabilities.map (·.name)

def lookup? (catalog : Catalog) (name : String) : Option Capability :=
  catalog.byName.lookup name

def contains (catalog : Catalog) (name : String) : Bool := (catalog.lookup? name).isSome

def indexOf? (catalog : Catalog) (name : String) : Option Nat :=
  catalog.positions.lookup name

/-- Names of the parameters, hooks and sub-flags of a flag. -/
def ownedBy (catalog : Catalog) (flag : String) : List String :=
  (catalog.byOwner.under flag).map (·.name)

def countKind (catalog : Catalog) (kind : CapabilityKind) : Nat :=
  catalog.capabilities.countP (·.kind == kind)

def summary (catalog : Catalog) : String :=
  s!"CapabilityCatalog({Text.quoted catalog.id}, {catalog.capabilities.length} capabilities)"

end Catalog
end FeatureCert
