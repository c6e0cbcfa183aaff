import FeatureCert.Catalog.Shipped
import FeatureCert.Failure
import FeatureCert.Log.Traced
import FeatureCert.Report.Lines

/-!
Tables: a catalog with the rules over it. Building them and judging selections by them leaves log
records.
-/
namespace FeatureCert

open FeatureCert.Log

structure Tables where
  catalog : Catalog
  rules : RuleSet catalog

/-- Exclusions of a list that repeat one of `kept` or an earlier one, with their positions. -/
def repeatedExclusions (kept : List Rule) (position : Nat) : List Rule → List (Rule × Nat)
  | [] => []
  | r :: rest =>
    if kept.any r.repeatsExclusion then
      (r, position) :: repeatedExclusions kept (position + 1) rest
    else repeatedExclusions (kept ++ [r]) (position + 1) rest

def dropRecord (r : Rule) (position : Nat) : Record :=
  let names := (r.exclusion?.map fun p => p.1 ++ "/" ++ p.2).getD r.subject
  ⟨debug, "cryptoconf.catalog.rules", s!"Dropping duplicate exclusion {names} at position {position}"⟩

def Catalog.buildTraced (id : String) (capabilities : List Capability) :
    Traced Failure Catalog := do
  let catalog ← Traced.mapError .ofDefect (Catalog.build id capabilities)
  Traced.write debug "cryptoconf.catalog.catalog"
    (s!"Built capability catalog {id}: {capabilities.length} capabilities " ++
      s!"({catalog.countKind .flag} flags, {catalog.countKind .parameter} parameters, " ++
      s!"{catalog.countKind .hook} hooks)")
  return catalog

def RuleSet.buildTraced (catalog : Catalog) (declared : List Rule) :
    Traced Failure (RuleSet catalog) := do
  let checked := match firstRuleFault? catalog declared with
    | some (position, _, _) => declared.take position
    | none => declared
  Traced.writeAll ((repeatedExclusions [] 0 checked).map fun (r, i) => dropRecord r i)
  let rules ← Traced.mapError .ofDefect (RuleSet.build catalog declared)
  Traced.write debug "cryptoconf.catalog.rules"
    (s!"Built rule set for {catalog.id}: {rules.rules.length} rules " ++
      s!"({rules.exclusionCount} exclusion pairs)")
  return rules

/-- The capability of a name; a name of any kind that may be a key can be asked for. -/
def Catalog.demand (catalog : Catalog) (name : Value) : Except Failure Capability :=
  if name.isKey then
    match catalog.named? name with
    | some c => .ok c
    | none => .error (.ofUnknown name)
  else .error .notKey

namespace Tables

/-- Tables of a list of capabilities and declared rules. -/
def build (id : String) (capabilities : List Capability) (declared : List Rule) :
    Traced Failure Tables := do
  let catalog ← Catalog.buildTraced id capabilities
  let rules ← RuleSet.buildTraced catalog declared
  return ⟨catalog, rules⟩

def shipped : Except Failure Tables :=
  (build Shipped.catalogId Shipped.capabilities Shipped.rules).outcome.1

/-- Which build made tables: those that come with the program are made once, all others anew. -/
inductive Origin where
  | shipped
  | built (serial : Nat)
  deriving DecidableEq, Repr

/-- Rules serve only the catalog of the build that made them. -/
def checkOrigin (own other : Tables) (ownOrigin otherOrigin : Origin) : Except Failure Unit :=
  if ownOrigin = otherOrigin then .ok ()
  else .error (.ofDefect (.foreignRules other.catalog.id own.catalog.id))

/-- Record of an entry whose name the catalog does not know. -/
def unknownRecord? (catalog : Catalog) (e : Entry) : Option Record :=
  match catalog.named? e.name, e.name.inspect with
  | none, .ok name =>
    some ⟨debug, "cryptoconf.validation.validator", "Unknown capability in selection: " ++ name⟩
  | _, _ => none

/-- Normal form of a selection over the catalog. -/
def normalize (tables : Tables) (selection : List Entry) :
    Traced Failure (Snapshot × List Violation) := do
  let judged := selection.takeWhile fun e => (tables.catalog.judge e).isOk
  Traced.writeAll (judged.filterMap (unknownRecord? tables.catalog))
  Traced.mapError .ofDigitLimit (tables.catalog.normalize selection)

def countsText (counts : List (ViolationKind × Nat)) : String :=
  "\x7b" ++ ", ".intercalate (counts.map fun (kind, n) => s!"'{kind.name}': {n}") ++ "\x7d"

def verdictRecord (v : Verdict) : Record :=
  if v.passed then
    ⟨debug, "cryptoconf.validation.validator",
      s!"Configuration accepted: catalog={v.catalogId} enabled={v.enabledCount} " ++
        s!"rules={v.checkedRules}"⟩
  else
    ⟨warning, "cryptoconf.validation.validator",
      s!"Configuration rejected: catalog={v.catalogId} violations={v.violations.length} " ++
        countsText (countByKind v.violations)⟩

def validate (tables : Tables) (selection : List Entry) : Traced Failure Verdict := do
  let (s, problems) ← tables.normalize selection
  let verdict := tables.rules.verdict s problems
  Traced.writeAll [verdictRecord verdict]
  return verdict

end Tables
end FeatureCert
