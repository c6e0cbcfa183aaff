import FeatureCert.Document.Shelf
import FeatureCert.Tables

/-!
A library: files, and a shelf for each reader of documents. An action writes or deletes a file, clears a
shelf, or reads: the document of a path or of a text, or the tables of a catalog file. An action that
fails leaves a library too, from which the next one goes on.
-/
namespace FeatureCert.Document

open FeatureCert.Log

/-- Readers of documents, one for each kind. -/
inductive Reader where
  | selections | catalogs
  deriving DecidableEq, Repr

abbrev Reader.Content : Reader → Type
  | .selections => SelectionDocument
  | .catalogs => CatalogDocument

def Reader.kind : (reader : Reader) → Kind reader.Content
  | .selections => selectionKind
  | .catalogs => catalogKind

def CatalogDocument.tables (d : CatalogDocument) : Traced Failure Tables :=
  Tables.build d.catalogId d.capabilities d.rules

structure Library where
  files : Files
  selections : Shelf SelectionDocument := {}
  catalogs : Shelf CatalogDocument := {}

namespace Library

inductive Action where
  | write (path : String) (octets : List UInt8)
  | delete (path : String)
  | clear (reader : Reader)
  | load (reader : Reader) (path : String)
  /-- Reads a text that comes from no file. -/
  | parse (reader : Reader) (text : String)
  /-- Loads a catalog document and builds its tables. -/
  | build (path : String)

inductive Answer where
  | done
  | loaded (reader : Reader) (loaded : Loaded reader.Content)
  | parsed (reader : Reader) (document : reader.Content)
  | built (tables : Tables)

/-- What an action comes to, and the library that it leaves. -/
structure Outcome (α : Type) where
  result : Except Failure α
  records : List Record
  library : Library

/-- Goes on with a computation that leaves the library as it is. -/
def Outcome.andThen (x : Outcome α) (f : α → Traced Failure β) : Outcome β :=
  match x.result with
  | .ok a =>
    let (result, records) := (f a).outcome
    ⟨result, x.records ++ records, x.library⟩
  | .error e => ⟨.error e, x.records, x.library⟩

def shelf (library : Library) : (reader : Reader) → Shelf reader.Content
  | .selections => library.selections
  | .catalogs => library.catalogs

/-- A library with another shelf for a reader. -/
def withShelf (library : Library) : (reader : Reader) → Shelf reader.Content → Library
  | .selections, shelf => { library with selections := shelf }
  | .catalogs, shelf => { library with catalogs := shelf }

@[simp] theorem shelf_withShelf (library : Library) (reader : Reader) (shelf : Shelf reader.Content) :
    (library.withShelf reader shelf).shelf reader = shelf := by
  cases reader <;> rfl

@[simp] theorem files_withShelf (library : Library) (reader : Reader) (shelf : Shelf reader.Content) :
    (library.withShelf reader shelf).files = library.files := by
  cases reader <;> rfl

@[simp] theorem withShelf_shelf (library : Library) (reader : Reader) :
    library.withShelf reader (library.shelf reader) = library := by
  cases reader <;> rfl

theorem shelf_withShelf_of_ne (library : Library) {reader other : Reader} (h : other ≠ reader)
    (shelf : Shelf reader.Content) :
    (library.withShelf reader shelf).shelf other = library.shelf other := by
  cases reader <;> cases other <;> first | rfl | exact absurd rfl h

/-- The document of a path; one that is loaded anew comes to stand on its reader's shelf. -/
def load (library : Library) (reader : Reader) (path : String) : Outcome (Loaded reader.Content) :=
  let (result, records) :=
    ((library.shelf reader).load reader.kind library.files (.ofText path)).outcome
  match result with
  | .ok (loaded, shelf) => ⟨.ok loaded, records, library.withShelf reader shelf⟩
  | .error e => ⟨.error e, records, library⟩

def perform (library : Library) : Action → Outcome Answer
  | .write path octets => ⟨.ok .done, [], { library with files := library.files.write path octets }⟩
  | .delete path => ⟨.ok .done, [], { library with files := library.files.delete path }⟩
  | .clear reader => ⟨.ok .done, [], library.withShelf reader (library.shelf reader).clear⟩
  | .load reader path => (library.load reader path).andThen fun loaded => pure (.loaded reader loaded)
  | .parse reader text => ⟨(reader.kind.parse inline text).map (.parsed reader), [], library⟩
  | .build path => (library.load .catalogs path).andThen fun loaded => .built <$> loaded.document.tables

def after (library : Library) (actions : List Action) : Library :=
  actions.foldl (fun library action => (library.perform action).library) library

end Library
end FeatureCert.Document
