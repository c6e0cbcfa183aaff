/-!
Paths: the text of a path with repeated slashes and single dots left out, and the place that it names
from a working directory. Double dots stay in the text and go one level up in the place.
-/
namespace FeatureCert

/-- A path as it is written: its leading slashes and the names between slashes. -/
structure Path where
  root : String
  names : List String
  deriving DecidableEq, Repr

namespace Path

def pieces (cs : List Char) : List (List Char) :=
  match cs with
  | [] => [[]]
  | c :: rest =>
    match pieces rest with
    | piece :: more => if c == '/' then [] :: piece :: more else (c :: piece) :: more
    | [] => [[c]]

/-- Names between the slashes of a text, with the empty ones. -/
def split (text : String) : List String := (pieces text.toList).map String.ofList

/-- Two leading slashes differ from one, and more than two count as one. -/
def ofText (text : String) : Path :=
  let root := match text.toList with
    | '/' :: '/' :: '/' :: _ => "/"
    | '/' :: '/' :: _ => "//"
    | '/' :: _ => "/"
    | _ => ""
  ⟨root, (split text).filter fun name => name != "" && name != "."⟩

/-- Text of a path; the working directory itself is a dot. -/
def text (p : Path) : String :=
  if p.root.isEmpty && p.names.isEmpty then "." else p.root ++ "/".intercalate p.names

/-- Names from the root of the file tree, with each double dot taken back. -/
def place (base : List String) (p : Path) : List String :=
  p.names.foldl (fun at_ name => if name == ".." then at_.dropLast else at_ ++ [name])
    (if p.root.isEmpty then base else [])

def placeText (names : List String) : String := "/" ++ "/".intercalate names

end Path
end FeatureCert
