import FeatureCert.Command.Run
import FeatureCert.Document.Shelf
import FeatureCert.Tables

/-!
Tables for a command: those of the catalog file that an option or the settings name, or else those that
come with the program. A catalog that cannot be built ends the run with a code of its own.
-/
namespace FeatureCert.Command

open FeatureCert.Log FeatureCert.Document

/-- Exit code where no catalog can be built. -/
def catalogCode : Nat := 3

/-- Tables of a catalog file, or of the catalog that comes with the program. -/
def buildTables (files : Files) (path? : Option Path) : Traced Failure Tables := do
  match path? with
  | none => Tables.build Shipped.catalogId Shipped.capabilities Shipped.rules
  | some path =>
    Traced.write debug "cryptoconf.cli._tables" s!"Loading catalog from {path.text}"
    let (loaded, _) ← Shelf.load catalogKind files {} path
    let d := loaded.document
    Tables.build d.catalogId d.capabilities d.rules

/-- Wording of a failure that tells that a catalog is broken; other failures are not expected. -/
def brokenCatalog? (e : Failure) : Option String :=
  match e with
  | .defect _ => Failure.report? e
  | .catalogDocument _ => Failure.report? e
  | .schema .. => Failure.report? e
  | .noFile .. => Failure.report? e
  | _ => none

def loadTables (context : Context) (option : Option Path) : Run Tables := do
  let path? := option <|> context.settings.catalogPath?
  match ← Run.logged (buildTables context.files path?) with
  | .ok tables => return tables
  | .error e =>
    match brokenCatalog? e with
    | some text => Run.reject s!"cannot build capability catalog: {text}" catalogCode
    | none => throw (.fault e)

end FeatureCert.Command
