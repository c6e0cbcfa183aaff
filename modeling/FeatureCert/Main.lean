import FeatureCert.Command.Program
import Std.Time.DateTime.Timestamp

/-!
The command line: gathers the environment, the time and the files that a run may name, and prints what the
program leaves.
-/
namespace FeatureCert.Main

open FeatureCert.Text

/-- Text of a file of the system; one that cannot be read has none. -/
def systemText (path : String) : IO String := do
  try return decodeLossy (← IO.FS.readBinFile path).toList
  catch _ => return ""

/-- Name and value of a variable out of its text. -/
def assignment? (text : String) : Option (String × String) :=
  match splitFirst '=' text.toList with
  | (name, some value) => some (String.ofList name, String.ofList value)
  | (_, none) => none

/-- Name and home directory of a user out of a line of the table of users. -/
def home? (line : String) : Option (String × String) :=
  match line.splitOn ":" with
  | [name, _, _, _, _, home, _] => some (name, home)
  | _ => none

def readEnvironment : IO Environment := do
  let texts ← systemText "/proc/self/environ"
  let users ← systemText "/etc/passwd"
  return {
    bindings := (texts.splitOn "\x00").filterMap assignment?
    homes := (users.splitOn "\n").filterMap home? }

def entry? (place : List String) : IO (Option FileEntry) := do
  let path := System.mkFilePath [Path.placeText place]
  try
    match (← path.metadata).type with
    | .dir => return some .directory
    | .file => return some (.file (← IO.FS.readBinFile path).toList)
    | _ => return none
  catch _ => return none

/-- Places on the way along a path. -/
def placesAlong (base : List String) (path : String) : List (List String) :=
  let p := Path.ofText path
  (List.range (p.names.length + 1)).map fun n => Path.place base { p with names := p.names.take n }

/-- Adds what stands along paths. -/
def gather (files : Files) (paths : List String) : IO Files :=
  (paths.flatMap (placesAlong files.base)).foldlM (fun files place => do
    match ← entry? place with
    | some entry => return files.put place entry
    | none => return files) files

/-- Paths that a word may name: itself, and what stands behind an equals sign. -/
def pathsOf (word : String) : List String := word :: ((assignment? word).map (·.2)).toList

def readFiles (environment : Environment) (words : List String) : IO Files := do
  let base := (Path.ofText (← IO.currentDir).toString).names
  let files ← gather { base } (".env" :: words.flatMap pathsOf)
  match Settings.Sources.ofFiles environment files >>= (Settings.make · []) with
  | .ok s => gather files s.catalogFile.toList
  | .error _ => return files

/-- The present time, as log lines show it. -/
def now : IO String := do
  let t ← Std.Time.Timestamp.now
  return (Log.timestamp (t.toNanosecondsSinceUnixEpoch.toInt / 1000)).toOption.getD ""

def run (words : List String) : IO UInt32 := do
  let environment ← readEnvironment
  let files ← readFiles environment words
  let outcome := Command.program environment files (← now) words
  IO.print outcome.out
  IO.eprint outcome.err
  if let some failure := outcome.failure then
    IO.eprintln (reprStr failure)
  return outcome.exitCode.toUInt32

end FeatureCert.Main

def main (words : List String) : IO UInt32 := FeatureCert.Main.run words
