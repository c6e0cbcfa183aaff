import FeatureCert.Catalog.Defect
import FeatureCert.Document.Issue
import FeatureCert.Files
import FeatureCert.Log.Template
import FeatureCert.Selection.Header
import FeatureCert.Settings.Environment
import FeatureCert.Yaml.Cursor

/-!
Failures: why an operation gives no result, with the wording of those that have one.
-/
namespace FeatureCert

open FeatureCert.Text FeatureCert.Numeral FeatureCert.Document

inductive DocumentFault where
  | notYaml (source : String)
  | notMapping (source kind : String)
  deriving DecidableEq, Repr

def DocumentFault.message : DocumentFault → String
  | .notYaml source => s!"{source} is not valid YAML"
  | .notMapping source kind =>
    s!"{source} must hold a mapping at the document root, found {kind}"

inductive Failure where
  /-- A decimal text over the digit limit. -/
  | digitLimit
  /-- A scalar of a document that has no value. -/
  | badScalar (fault : Yaml.Fault)
  | badLiteral (literal : Selection.BadLiteral)
  | selectionText (fault : Selection.TextFault)
  | selectionDocument (fault : DocumentFault)
  | defect (defect : CatalogDefect)
  | catalogDocument (fault : DocumentFault)
  /-- A name of no capability, as a text that shows its kind. -/
  | unknownCapability (shown : String)
  /-- Issues of a document of a named form. -/
  | schema (form : String) (issues : List Issue)
  | noFile (what path : String)
  | unreadable (fault : ReadFault)
  /-- A path that cannot be looked up. -/
  | badPath (fault : PathFault)
  /-- A name and a value that are no variable. -/
  | badBinding (fault : BindingFault)
  /-- A text with a half on its way out. -/
  | noOctets
  /-- A container used as a key. -/
  | notKey
  /-- A line of the log that has no text. -/
  | logLine (fault : Log.LineFault)
  /-- A name of no level where one is asked for. -/
  | badLevelName
  /-- An argument of another kind than is asked for. -/
  | badArgument
  deriving DecidableEq, Repr

namespace Failure

/-- Failure of a defect, whose wording must have a text. -/
def ofDefect (d : CatalogDefect) : Failure :=
  match d.message with
  | .ok _ => .defect d
  | .error _ => .digitLimit

def ofDigitLimit (_ : DigitLimit) : Failure := .digitLimit

/-- Failure of a name, which must have a text. -/
def ofUnknown (name : Value) : Failure :=
  match name.inspect with
  | .ok shown => .unknownCapability shown
  | .error _ => .digitLimit

/-- Wording of a failure that has one of its own. -/
def message? : Failure → Option String
  | .selectionText fault => some fault.message
  | .selectionDocument fault => some fault.message
  | .defect d => d.message.toOption
  | .catalogDocument fault => some fault.message
  | .unknownCapability shown => some ("Unknown capability: " ++ shown)
  | .noFile what path => some s!"{what} not found: {path}"
  | _ => none

end Failure
end FeatureCert
