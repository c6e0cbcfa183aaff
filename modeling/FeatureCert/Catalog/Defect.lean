import FeatureCert.Catalog.Basic
import FeatureCert.Rule
import FeatureCert.Text.Quoted
import FeatureCert.Numeral.Decimal

/-!
Defects of tables, and their wording. A wording that holds a number over the digit limit does not
exist.
-/
namespace FeatureCert

inductive RuleFault where
  | unknownName (name : String)
  | refersToItself
  | subjectNotParameter (kind : CapabilityKind)
  | emptyRange (minimum maximum : Int)
  | defaultOutside (default : Default) (minimum maximum : Int)
  deriving DecidableEq, Repr

inductive CatalogDefect where
  | duplicateName (name : String) (first second : Nat)
  | capability (c : Capability) (fault : CapabilityFault)
  | rule (position : Nat) (r : Rule) (fault : RuleFault)
  /-- Rules that were built for another catalog. -/
  | foreignRules (builtFor given : String)
  deriving DecidableEq, Repr

open FeatureCert.Text FeatureCert.Numeral

/-- Text of a default, which shows its kind. -/
def Default.text : Default → Except DigitLimit String
  | .switch on => .ok (if on then "True" else "False")
  | .number n => decimal n

def CapabilityFault.message (c : Capability) : CapabilityFault → Except DigitLimit String
  | .needsNumber given => do
    let got ← (Default.switch given).text
    return s!"Parameter {quoted c.name} needs an integer default, got {got}"
  | .needsSwitch given => do
    let got ← decimal given
    return s!"{c.kind.name} {quoted c.name} needs a boolean default, got {got}"
  | .unknownOwner owner =>
    .ok s!"Capability {quoted c.name} references non-existent owner {quoted owner}"
  | .ownsItself => .ok s!"Capability {quoted c.name} cannot own itself"
  | .ownerNotFlag owner kind =>
    .ok s!"Owner {quoted owner} of {quoted c.name} must be a flag, not '{kind.name}'"
  | .needsOwner =>
    .ok s!"Capability {quoted c.name} of kind '{c.kind.name}' must declare an owning flag"

def RuleFault.message (position : Nat) (r : Rule) : RuleFault → Except DigitLimit String
  | .unknownName name =>
    .ok (s!"Rule #{position} ({r.kind.name} on {quoted r.subject}) references " ++
      s!"unknown capability {quoted name}")
  | .refersToItself =>
    .ok s!"Rule #{position} ({r.kind.name}) makes {quoted r.subject} refer to itself"
  | .subjectNotParameter kind =>
    .ok (s!"Rule #{position}: range rule on {quoted r.subject} which is a {kind.name}, " ++
      "not a parameter")
  | .emptyRange minimum maximum => do
    let low ← decimal minimum
    let high ← decimal maximum
    return s!"Rule #{position}: empty range [{low}, {high}] for {quoted r.subject}"
  | .defaultOutside default minimum maximum => do
    let value ← default.text
    let low ← decimal minimum
    let high ← decimal maximum
    return s!"Default {value} of parameter {quoted r.subject} is outside " ++
      s!"its own range [{low}, {high}]"

def CatalogDefect.message : CatalogDefect → Except DigitLimit String
  | .duplicateName name first second =>
    .ok (s!"Duplicate capability identifier {quoted name} " ++
      s!"(declared at positions {first} and {second})")
  | .capability c fault => fault.message c
  | .rule position r fault => fault.message position r
  | .foreignRules builtFor given =>
    .ok s!"Rule set was built for catalog {quoted builtFor}, not {quoted given}"

end FeatureCert
