import FeatureCert.Document.Shape
import FeatureCert.Failure
import FeatureCert.Settings.Dotenv

/-!
Settings of the program. Each one comes from the first of these that gives it: an override, the
environment, a file of variables, its default.
-/
namespace FeatureCert

open FeatureCert.Document FeatureCert.Text

/-- Least severity of what is logged. -/
inductive Verbosity where
  | debug | info | warning | error
  deriving DecidableEq, Repr

def Verbosity.ofName? : String → Option Verbosity
  | "debug" => some .debug
  | "info" => some .info
  | "warning" => some .warning
  | "error" => some .error
  | _ => none

def Verbosity.name : Verbosity → String
  | .debug => "debug"
  | .info => "info"
  | .warning => "warning"
  | .error => "error"

inductive Style where
  | text | json
  deriving DecidableEq, Repr

def Style.ofName? : String → Option Style
  | "text" => some .text
  | "json" => some .json
  | _ => none

def Style.name : Style → String
  | .text => "text"
  | .json => "json"

structure Settings where
  verbosity : Verbosity := .warning
  logStyle : Style := .text
  /-- Catalog file, with variables and home directory put in. -/
  catalogFile : Option String := none
  /-- Lead that names in a header have. -/
  headerLead : String := "MBEDCRYPTO_"
  /-- Lead of environment variables that select. -/
  environmentLead : String := "CRYPTOCONF_SET_"
  reportStyle : Style := .text
  deriving DecidableEq, Repr

namespace Settings

/-- How the variables that give settings are looked for. -/
structure Search where
  /-- Lead of their names. -/
  lead : String := "CRYPTOCONF_"
  /-- Files that assign them, the later ones winning. -/
  paths : List String := [".env"]
  matchCase : Bool := false
  skipEmpty : Bool := false
  /-- Word that stands for null. -/
  nullWord : Option String := none
  deriving Repr

namespace Search

/-- Whether a name in any case, or in its own, is that of a field. -/
def names (s : Search) (name field : String) : Bool :=
  if s.matchCase then name == field
  else String.ofList (lower name.toList) == String.ofList (lower field.toList)

/-- Value of the last variable that gives a field. -/
def variable_ (s : Search) (bindings : List (String × Option String)) (field : String) :
    Option Value :=
  let kept := bindings.filter fun b => !(s.skipEmpty && b.2 == some "")
  let value := (kept.reverse.find? fun b => s.names b.1 (s.lead ++ field)).bind (·.2)
  value.map fun text => if s.nullWord == some text then .null else .text text

def isOn : Value → Bool
  | .null => false
  | .bool b => b
  | .int n => n != 0
  | .float x => x.unsignZero != .finite false 0 Binary64.minExponent
  | .text s => !s.isEmpty
  | .list items => !items.isEmpty
  | .dict entries => !entries.isEmpty
  | _ => true

def textOption : Value → Except Failure String
  | .text s => .ok s
  | _ => .error .badArgument

def pathsOption : Value → Except Failure (List String)
  | .null => .ok []
  | .text s => .ok [s]
  | .list items => items.mapM textOption
  | .dict entries => (entries.map (·.1)).mapM textOption
  | _ => .error .badArgument

/-- The search that options among overrides ask for; those that are null change nothing but the files. -/
def ofOverrides (overrides : List (String × Value)) : Except Failure Search := do
  let option (name : String) : Option Value := (overrides.find? (·.1 == name)).map (·.2)
  let given (name : String) : Option Value := (option name).filter fun v => v.kindName != "NoneType"
  let default : Search := {}
  return {
    lead := ← ((given "_env_prefix").map textOption).getD (.ok default.lead)
    paths := ← ((option "_env_file").map pathsOption).getD (.ok default.paths)
    matchCase := ((given "_case_sensitive").map isOn).getD false
    skipEmpty := ((given "_env_ignore_empty").map isOn).getD false
    nullWord := ← match given "_env_parse_none_str" with
      | none => pure none
      | some v => do pure (some (← textOption v)) }

end Search

structure Sources where
  environment : Environment
  dotenv : Dotenv.Content := {}
  search : Search := {}

/-- What a file of variables holds; a path that names no file gives none. -/
def dotenvOf (environment : Environment) (files : Files) (path : String) :
    Except Failure Dotenv.Content :=
  match files.seek (Path.ofText (environment.expandHome path)).text with
  | .error fault => .error (.badPath fault)
  | .ok (some (.file octets)) => do
    let text ← (Files.textOf (.file octets)).mapError .unreadable
    return Dotenv.read environment text
  | .ok _ => .ok {}

def Sources.ofFiles (environment : Environment) (files : Files) (search : Search := {}) :
    Except Failure Sources := do
  let contents ← search.paths.mapM (dotenvOf environment files)
  return ⟨environment,
    ⟨contents.flatMap (·.assignments), contents.flatMap (·.badLines)⟩, search⟩

def override? (search : Search) (overrides : List (String × Value)) (field : String) :
    Option Value :=
  ((overrides.find? (·.1 == field)) <|> overrides.find? fun o => search.names o.1 field).map (·.2)

/-- Value that the sources give a field. -/
def given? (sources : Sources) (overrides : List (String × Value)) (field : String) :
    Option Value :=
  let search := sources.search
  let bindings := sources.environment.bindings.map fun (name, value) => (name, some value)
  override? search overrides field <|> search.variable_ bindings field <|>
    search.variable_ sources.dotenv.assignments field

/-- A field that has a shape if it is given. -/
def field (sources : Sources) (overrides : List (String × Value)) (name : String) (default : α)
    (shape : Shape α) : Checked α :=
  match given? sources overrides name with
  | some v => (shape v).under (.key name)
  | none => .good default

/-- A path in which variables and then the home directory are put in. -/
def expandedPath (e : Environment) : Shape (Option String) := fun v =>
  (nullable text v).map fun path => path.map fun p => e.expandHome (e.expandVariables p)

def ofSources (sources : Sources) (overrides : List (String × Value)) : Checked Settings :=
  let field {α : Type} := @field α sources overrides
  Settings.mk
    <$> field "log_level" .warning (choice .literalError Verbosity.ofName?)
    <*> field "log_format" .text (choice .literalError Style.ofName?)
    <*> field "catalog_file" none (expandedPath sources.environment)
    <*> field "header_prefix" "MBEDCRYPTO_" text
    <*> field "env_selection_prefix" "CRYPTOCONF_SET_" text
    <*> field "report_format" .text (choice .literalError Style.ofName?)

def form : String := "CryptoconfConfig"

/-- Settings out of their sources, or the failure of those that do not fit. -/
def make (sources : Sources) (overrides : List (String × Value)) : Except Failure Settings :=
  match ofSources sources overrides with
  | .good s => .ok s
  | .bad issues => .error (.schema form issues)

/-- Path of the catalog file; an empty text names none. -/
def catalogPath? (s : Settings) : Option Path :=
  match s.catalogFile with
  | some path => if path.isEmpty then none else some (.ofText path)
  | none => none

end Settings
end FeatureCert
