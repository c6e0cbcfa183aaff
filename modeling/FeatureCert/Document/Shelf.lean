import FeatureCert.Document.Kind
import FeatureCert.Log.Traced

/-!
A shelf of loaded documents. The first document that is loaded from a place stays there until the shelf
is cleared, whatever becomes of the file; a load that fails puts nothing on the shelf.
-/
namespace FeatureCert.Document

open FeatureCert.Log

/-- A document with the number of its load, which no other load has. -/
structure Loaded (α : Type) where
  serial : Nat
  document : α
  deriving Repr

structure Shelf (α : Type) where
  next : Nat := 0
  places : List (String × Loaded α) := []

namespace Shelf

def find? (shelf : Shelf α) (place : String) : Option (Loaded α) :=
  (shelf.places.find? (·.1 == place)).map (·.2)

def clear (shelf : Shelf α) : Shelf α := { shelf with places := [] }

def put (shelf : Shelf α) (place : String) (document : α) : Loaded α × Shelf α :=
  let loaded := ⟨shelf.next, document⟩
  (loaded, ⟨shelf.next + 1, (place, loaded) :: shelf.places⟩)

def readFile (kind : Kind α) (files : Files) (path : Path) : Except Failure α := do
  match files.seek path.text with
  | .error fault => throw (.badPath fault)
  | .ok none => throw (.noFile "YAML file" path.text)
  | .ok (some entry) =>
    let text ← (Files.textOf entry).mapError .unreadable
    kind.parse path.text text

/-- The document of a path, from the shelf or else from its file. -/
def load (kind : Kind α) (files : Files) (shelf : Shelf α) (path : Path) :
    Traced Failure (Loaded α × Shelf α) := do
  let place := Path.placeText (path.place files.base)
  if let some fault := Files.textFault? place then throw (.badPath fault)
  match shelf.find? place with
  | some loaded =>
    Traced.write debug kind.logger s!"{kind.reader} reusing {place}"
    return (loaded, shelf)
  | none =>
    let document ← Traced.mapError id (readFile kind files path)
    Traced.write debug kind.logger s!"{kind.summary document} ({place})"
    return shelf.put place document

end Shelf
end FeatureCert.Document
