import FeatureCert.Path
import FeatureCert.Text.Classes
import FeatureCert.Text.Half
import FeatureCert.Text.Utf8

/-!
A tree of files with a working directory. A name is found if every directory on the way to it exists;
a file that is read as text has line feeds for line ends.
-/
namespace FeatureCert

open FeatureCert.Text

inductive FileEntry where
  | directory
  | file (octets : List UInt8)
  deriving DecidableEq, Repr

/-- Why something that exists has no text. -/
inductive ReadFault where
  | isDirectory
  | badEncoding
  deriving DecidableEq, Repr

inductive PathFault where
  | tooLong
  /-- The character NUL, which no path holds. -/
  | holdsNul
  /-- A half, which no name has, unless it stands for an octet. -/
  | holdsHalf
  deriving DecidableEq, Repr

structure Files where
  /-- Place of the working directory. -/
  base : List String
  entries : List (List String × FileEntry) := []

namespace Files

def at? (files : Files) (place : List String) : Option FileEntry :=
  match files.entries.find? (·.1 == place) with
  | some (_, entry) => some entry
  | none => if place.isPrefixOf files.base then some .directory else none

/-- Most octets of a name. -/
def maxName : Nat := 255

/-- Octets that a whole path does not reach. -/
def pathLimit : Nat := 4096

/-- What names lead to from a place. -/
def follow (files : Files) (place : List String) :
    List String → Except PathFault (Option FileEntry)
  | [] => .ok (files.at? place)
  | name :: rest =>
    match files.at? place with
    | some .directory =>
      if maxName < name.utf8ByteSize then .error .tooLong
      else if name == "" || name == "." then follow files place rest
      else if name == ".." then follow files place.dropLast rest
      else follow files (place ++ [name]) rest
    | _ => .ok none

/-- Why a text is no path at all. -/
def textFault? (path : String) : Option PathFault :=
  if path.toList.any fun c => isHalf c && !isLooseOctet c then some .holdsHalf
  else if path.toList.contains '\x00' then some .holdsNul
  else none

/-- Octets of a path, of which a half may stand for one. -/
def pathOctets (path : String) : List UInt8 :=
  path.toList.flatMap fun c =>
    if isHalf c && isLooseOctet c then [UInt8.ofNat (codeOf c - 0xdc00)] else octetsOf c.toString

/-- Text of a path for reading, with what is no text replaced. -/
def shownPath (path : String) : String := decodeLossy (pathOctets path)

/-- Looks up what the text of a path names; an empty text names nothing. -/
def look (files : Files) (path : String) : Except PathFault (Option FileEntry) :=
  if path.isEmpty then .ok none
  else
    match textFault? path with
    | some fault => .error fault
    | none =>
      if pathLimit ≤ path.utf8ByteSize then .error .tooLong
      else
        let start := if path.startsWith "/" then [] else files.base
        files.follow start (Path.split path)

/-- What the text of a path names; a path that is too long names nothing. -/
def find (files : Files) (path : String) : Except PathFault (Option FileEntry) :=
  match files.look path with
  | .error .tooLong => .ok none
  | found => found

/-- What the text of a path names; a text that is no path names nothing. -/
def seek (files : Files) (path : String) : Except PathFault (Option FileEntry) :=
  match textFault? path with
  | some _ => .ok none
  | none => files.look path

/-- A path that begins at no root leads on from the working directory. -/
theorem seek_of_relative {files : Files} {path : String} (htext : textFault? path = none)
    (hempty : path.isEmpty = false) (hroot : path.startsWith "/" = false)
    (hsize : path.utf8ByteSize < pathLimit) :
    files.seek path = files.follow files.base (Path.split path) := by
  rw [seek, htext]
  simp [look, hempty, htext, hroot, Nat.not_le.2 hsize]

def textOf (entry : FileEntry) : Except ReadFault String :=
  match entry with
  | .directory => .error .isDirectory
  | .file octets =>
    match textOf? octets with
    | some text => .ok (String.ofList (foldLineEnds text.toList))
    | none => .error .badEncoding

/-- What is written in octets is read again. -/
theorem textOf_octetsOf {text : String} (h : '\r' ∉ text.toList) :
    textOf (.file (octetsOf text)) = .ok text := by
  simp only [textOf, textOf?_octetsOf]
  rw [foldLineEnds_of_not_mem h, String.ofList_toList]

/-- Text of an entry in which what is no text is replaced. -/
def lossyTextOf (entry : FileEntry) : Except ReadFault String :=
  match entry with
  | .directory => .error .isDirectory
  | .file octets => .ok (String.ofList (foldLineEnds (decodeLossy octets).toList))

def put (files : Files) (place : List String) (entry : FileEntry) : Files :=
  { files with entries := (place, entry) :: files.entries.filter (·.1 != place) }

/-- Makes the directories on the way to a place that are not there. -/
def makeParents (files : Files) (place : List String) : Files :=
  ((List.range place.length).map place.take).foldl
    (fun files p => if (files.at? p).isSome then files else files.put p .directory) files

/-- Writes a file, with the directories on the way to it. -/
def write (files : Files) (path : String) (octets : List UInt8) : Files :=
  let place := (Path.ofText path).place files.base
  (files.makeParents place).put place (.file octets)

def delete (files : Files) (path : String) : Files :=
  let place := (Path.ofText path).place files.base
  { files with entries := files.entries.filter (·.1 != place) }

end Files
end FeatureCert
