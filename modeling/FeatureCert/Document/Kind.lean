import FeatureCert.Document.Catalog
import FeatureCert.Document.Selection
import FeatureCert.Failure
import FeatureCert.Yaml.Reading

/-!
Kinds of documents: how the text of a file becomes a document of a kind, and what fails on the way. The
text must be YAML with a table at its root, and the table must fit the kind's shape.
-/
namespace FeatureCert.Document

structure Kind (α : Type) where
  /-- Name of the form that the root table must fit. -/
  form : String
  shape : Shape α
  /-- Failure of a text that is no document. -/
  reject : DocumentFault → Failure
  /-- Who says in the log that a document was used again. -/
  reader : String
  logger : String
  /-- What the log says of a document that was loaded. -/
  summary : α → String

/-- The document of a text; `source` names the text in errors. -/
def Kind.parse (kind : Kind α) (source text : String) : Except Failure α :=
  match Yaml.read text with
  | .error .malformed => .error (kind.reject (.notYaml source))
  | .error fault => .error (.badScalar fault)
  | .ok v =>
    if (entries? v).isNone then .error (kind.reject (.notMapping source v.kindName))
    else
      match kind.shape v with
      | .good document => .ok document
      | .bad issues => .error (.schema kind.form issues)

/-- Name of a text that comes from no file. -/
def inline : String := "<string>"

def selectionKind : Kind SelectionDocument where
  form := "SelectionDocument"
  shape := selectionDocument
  reject := .selectionDocument
  reader := "SelectionLoader"
  logger := "cryptoconf.snapshot.loader"
  summary d :=
    let catalog := d.catalogId.getD ""
    s!"Loaded selection file: entries={d.pairs.length}, catalog=" ++
      (if catalog.isEmpty then "-" else catalog)

def catalogKind : Kind CatalogDocument where
  form := "CatalogDocument"
  shape := catalogDocument
  reject := .catalogDocument
  reader := "CatalogLoader"
  logger := "cryptoconf.catalog.loader"
  summary d :=
    s!"Loaded capability catalog: id={d.catalogId}, capabilities={d.capabilities.length}, " ++
      s!"rules={d.rules.length}"

end FeatureCert.Document
