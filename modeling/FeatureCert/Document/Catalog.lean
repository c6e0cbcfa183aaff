import FeatureCert.Capability
import FeatureCert.Document.Shape
import FeatureCert.Rule

/-!
Catalog documents: the capabilities and rules of a toolkit as they are declared, before their tables
are built.
-/
namespace FeatureCert.Document

structure CatalogDocument where
  schemaVersion : String
  catalogId : String
  capabilities : List Capability
  rules : List Rule := []
  description : Option String := none
  deriving Repr

/-- A switch or a number. -/
def default : Shape Default
  | .bool b => .good (.switch b)
  | .int n => .good (.number n)
  | _ => .bad [⟨.boolType, [.key "bool"]⟩, ⟨.intType, [.key "int"]⟩]

def capability : Shape Capability := record fun e =>
  Capability.mk
    <$> required e "name" identifier
    <*> optional e "kind" .flag (member CapabilityKind.ofName?)
    <*> optional e "default" (.switch false) default
    <*> optional e "owner" none (nullable text)
    <*> optional e "section" none (nullable text)
    <*> optional e "description" none (nullable text)
    <* closed e ["name", "kind", "default", "owner", "section", "description"]

def constraint (e : List (Value × Value)) : RuleKind → Checked Constraint
  | .requires => .requires <$> required e "target" nonEmptyText
  | .requiresAny =>
    .requiresAny <$> required e "targets" (someOf text)
  | .excludes => .excludes <$> required e "target" nonEmptyText
  | .range => .range <$> required e "minimum" strictInt <*> required e "maximum" strictInt

def ruleFields : RuleKind → List String
  | .requires => ["subject", "note", "kind", "target"]
  | .requiresAny => ["subject", "note", "kind", "targets"]
  | .excludes => ["subject", "note", "kind", "target"]
  | .range => ["subject", "note", "kind", "minimum", "maximum"]

def rule : Shape Rule := tagged RuleKind.ofName? RuleKind.name fun kind e =>
  Rule.mk
    <$> required e "subject" nonEmptyText
    <*> optional e "note" none (nullable text)
    <*> constraint e kind
    <* closed e (ruleFields kind)

def catalogDocument : Shape CatalogDocument := record fun e =>
  (fun version (_ : Unit) id capabilities rules description =>
      CatalogDocument.mk version id capabilities rules description)
    <$> required e "schema_version" nonEmptyText
    <*> required e "contract_type" (literal "capability_catalog")
    <*> required e "catalog_id" nonEmptyText
    <*> required e "capabilities" (listOf capability)
    <*> optional e "rules" [] (listOf rule)
    <*> optional e "description" none (nullable text)
    <* closed e ["schema_version", "contract_type", "catalog_id", "capabilities", "rules",
      "description"]

end FeatureCert.Document
