import FeatureCert.Catalog.Queries
import FeatureCert.Command.CatalogFile
import FeatureCert.Report.Lines
import FeatureCert.Yaml.Writer

/-!
The commands that show a catalog: the list of its capabilities, one capability with its rules, and the
default configuration as a selection file or as definitions.
-/
namespace FeatureCert.Command.Browse

open FeatureCert.Numeral

def padded (width : Nat) (text : String) : String :=
  text ++ String.ofList (List.replicate (width - text.length) ' ')

/-- A text that is there and not empty. -/
def filled? (text : Option String) : Option String := text.filter fun t => !t.isEmpty

namespace Listing

def usage : Usage where
  command := "cryptoconf list"
  shape := "[OPTIONS]"
  options := [
    { names := ["--kind"], reading := .choice (CapabilityKind.all.map (·.name)) },
    { names := ["--enabled-only"], takesValue := false },
    catalogOption,
    helpOption]
  page := "\n".intercalate [
    "Usage: cryptoconf list [OPTIONS]",
    "",
    "  List catalog capabilities and their defaults.",
    "",
    "Options:",
    "  --kind [flag|parameter|alt_hook]",
    "                                  Only show capabilities of this kind",
    "  --enabled-only                  Only show capabilities enabled by default",
    "  --catalog FILE                  Alternative catalog YAML (default: built-in",
    "                                  mbed-crypto catalog)",
    "  --help                          Show this message and exit.",
    ""]

/-- Default of a capability: a number, or whether it is on. -/
def defaultText (c : Capability) : Except DigitLimit String :=
  if c.isParameter then decimal c.default.toInt
  else .ok (if c.default.isOn then "on" else "off")

def capabilityLine (c : Capability) : Except DigitLimit String := do
  let owner := match filled? c.owner with
    | some owner => s!"  (owner: {owner})"
    | none => ""
  return s!"{padded 40 c.name} {padded 10 c.kind.name} {← defaultText c}{owner}"

/-- Capabilities of a kind, and only those that are on if that is asked for. -/
def chosen (catalog : Catalog) (kind : Option String) (enabledOnly : Bool) : List Capability :=
  catalog.capabilities.filter fun c =>
    kind.all (· == c.kind.name) && (!enabledOnly || catalog.defaultSnapshot.isEnabled c.name)

def run (context : Context) (words : List String) : Run Unit := do
  let line ← Run.readLine usage context.files words
  let tables ← loadTables context (line.path? "--catalog")
  let shown := chosen tables.catalog (line.last? "--kind") (line.has "--enabled-only")
  shown.forM fun c => do
    Run.say (← Run.demand ((capabilityLine c).mapError .ofDigitLimit))
  Run.say s!"\n{shown.length} of {tables.catalog.capabilities.length} capabilities ({tables.catalog.id})"

end Listing

namespace Explanation

def usage : Usage where
  command := "cryptoconf explain"
  shape := "[OPTIONS] NAME"
  options := [
    { names := ["--rule-kind"], repeated := true,
      reading := .choice (RuleKind.all.map (·.name)) },
    catalogOption,
    helpOption]
  operand := some ⟨"NAME", true, .text⟩
  page := "\n".intercalate [
    "Usage: cryptoconf explain [OPTIONS] NAME",
    "",
    "  Show a capability and every rule that mentions it.",
    "",
    "Options:",
    "  --rule-kind [requires|requires_any|excludes|range]",
    "                                  Only show rules of this kind (repeatable)",
    "  --catalog FILE                  Alternative catalog YAML (default: built-in",
    "                                  mbed-crypto catalog)",
    "  --help                          Show this message and exit.",
    ""]

/-- Default of a capability as it is declared. -/
def defaultText : Default → Except DigitLimit String
  | .switch b => .ok (if b then "True" else "False")
  | .number n => decimal n

def headLines (c : Capability) : List String :=
  ((filled? c.owner).map ("  owner:   " ++ ·)).toList ++
    ((filled? c.group).map ("  section: " ++ ·)).toList ++
    ((filled? c.description).map ("  " ++ ·)).toList

/-- A line of names behind a title, if there are names. -/
def nameLines (title : String) (names : List String) : List String :=
  if names.isEmpty then [] else [s!"\n{title}: " ++ ", ".intercalate names]

/-- Rules that mention a capability, of the given kinds if any are given. -/
def mentioned (tables : Tables) (name : String) (kinds : List String) : List Rule :=
  (tables.rules.mentioning name).filter fun r => kinds.isEmpty || kinds.contains r.kind.name

def run (context : Context) (words : List String) : Run Unit := do
  let line ← Run.readLine usage context.files words
  let name := line.operands.headD ""
  let tables ← loadTables context (line.path? "--catalog")
  match tables.catalog.lookup? name with
  | none =>
    let detail := ((Failure.ofUnknown (.text name)).message?).getD ""
    Run.misuse usage (.invalid "'NAME'" detail)
  | some c =>
    Run.say s!"{c.name} ({c.kind.name})"
    Run.say s!"  default: {← Run.demand ((defaultText c.default).mapError .ofDigitLimit)}"
    (headLines c).forM Run.say
    (nameLines "Owns" (tables.catalog.ownedBy c.name)).forM Run.say
    let rules := mentioned tables c.name (line.all "--rule-kind")
    Run.say s!"\nRules ({rules.length}):"
    rules.forM fun r => do
      Run.say s!"  [{r.kind.name}] {← Run.demand (r.line.mapError .ofDigitLimit)}"
    (nameLines "Needed by" (tables.rules.dependentsOf c.name)).forM Run.say

end Explanation

namespace Defaults

def usage : Usage where
  command := "cryptoconf defaults"
  shape := "[OPTIONS]"
  options := [
    { names := ["--format"], reading := .choice ["yaml", "defines"] },
    { names := ["--prefix"] },
    catalogOption,
    helpOption]
  page := "\n".intercalate [
    "Usage: cryptoconf defaults [OPTIONS]",
    "",
    "  Dump the catalog default configuration.",
    "",
    "Options:",
    "  --format [yaml|defines]  yaml: a selection file; defines: one -D entry per",
    "                           line",
    "  --prefix TEXT            Prefix for --format defines (e.g. MBEDCRYPTO_)",
    "  --catalog FILE           Alternative catalog YAML (default: built-in mbed-",
    "                           crypto catalog)",
    "  --help                   Show this message and exit.",
    ""]

/-- A value of a selection as it is written. -/
def content : Value → Yaml.Writer.Content
  | .int n => .number n
  | .bool b => .switch b
  | _ => .switch false

/-- Selection file of the default configuration. -/
def selectionText (catalog : Catalog) : Except DigitLimit String := do
  let head ← Yaml.Writer.entry 0 "catalog_id" (.text catalog.id)
  let pairs := catalog.selectionOf catalog.defaultSnapshot
  let body ← Yaml.Writer.section_ "selections" (pairs.map fun (name, v) => (name, content v))
  return String.ofList (head ++ body)

def run (context : Context) (words : List String) : Run Unit := do
  let line ← Run.readLine usage context.files words
  let tables ← loadTables context (line.path? "--catalog")
  if line.last? "--format" == some "defines" then
    let lead := (line.last? "--prefix").getD ""
    let defines ← Run.demand ((tables.catalog.defaultSnapshot.defines lead).mapError .ofDigitLimit)
    defines.forM Run.say
  else Run.put (← Run.demand ((selectionText tables.catalog).mapError .ofDigitLimit))

end Defaults
end FeatureCert.Command.Browse
