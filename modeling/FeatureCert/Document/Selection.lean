import FeatureCert.Document.Shape
import FeatureCert.Selection.Basic

/-!
Selection documents: the assignments of a file, as one table or as a list of tables with one entry
each, where a name may come again.
-/
namespace FeatureCert.Document

inductive SelectionForm where
  | table | items
  deriving DecidableEq, Repr

structure SelectionDocument where
  form : SelectionForm := .table
  pairs : List (String × Value) := []
  catalogId : Option String := none
  description : Option String := none

/-- Only entry of each table of a list; the first table with none or several is an issue. -/
def singlePairs (tables : List (List (String × Value))) : Checked (List (String × Value)) :=
  match tables.zipIdx.find? fun (t, _) => t.length != 1 with
  | some (t, position) =>
    .fail (.valueError (s!"Value error, selection item #{position} must have exactly one key, " ++
      s!"got {t.length}"))
  | none => .good tables.flatten

/-- A table of assignments, of which the last one of a name counts. -/
def assignments : Shape (List (String × Value)) := fun v => (table v).map Selection.collect

/-- A table, or a list of tables with one entry each. -/
def selections : Shape (SelectionForm × List (String × Value)) := fun v =>
  let asTable := (assignments v).map fun entries => Checked.good (SelectionForm.table, entries)
  let asItems := (listOf assignments v).map fun tables =>
    (singlePairs tables).map (SelectionForm.items, ·)
  (Checked.either "dict[str,any]" asTable "list[dict[str,any]]" asItems).andThen id

def selectionDocument : Shape SelectionDocument := record fun e =>
  (fun (form, pairs) id description => SelectionDocument.mk form pairs id description)
    <$> optional e "selections" (.table, []) selections
    <*> optional e "catalog_id" none (nullable text)
    <*> optional e "description" none (nullable text)
    <* closed e ["selections", "catalog_id", "description"]

end FeatureCert.Document
