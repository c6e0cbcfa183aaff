import FeatureCert.Command.Browse
import FeatureCert.Command.Check

/-!
The program: reads the settings, sets up the log, and runs the command that the command line names.
-/
namespace FeatureCert.Command

open FeatureCert.Log

def version : String := "0.1.0"

namespace Program

def usage : Usage where
  command := "cryptoconf"
  shape := "[OPTIONS] COMMAND [ARGS]..."
  options := [{ names := ["--version"], takesValue := false }, helpOption]
  mixed := false
  page := "\n".intercalate [
    "Usage: cryptoconf [OPTIONS] COMMAND [ARGS]...",
    "",
    "  cryptoconf - feature configuration validator for crypto toolkits.",
    "",
    "Options:",
    "  --version  Show the version and exit.",
    "  --help     Show this message and exit.",
    "",
    "Commands:",
    "  check     Validate a feature configuration against the capability catalog.",
    "  defaults  Dump the catalog default configuration.",
    "  explain   Show a capability and every rule that mentions it.",
    "  list      List catalog capabilities and their defaults.",
    ""]

def commands : List (String × (Context → List String → Run Unit)) :=
  [("check", Check.run), ("defaults", Browse.Defaults.run), ("explain", Browse.Explanation.run),
    ("list", Browse.Listing.run)]

/-- Reads the words in front of a command, and gives its name with the words behind it. -/
def readWords (words : List String) : Run (List String) := do
  match usage.read words with
  | .error fault => Run.misuse usage fault
  | .ok line =>
    match line.given.head? with
    | some ⟨"--version", _⟩ =>
      Run.say s!"cryptoconf, version {version}"
      Run.exit 0
    | some _ =>
      Run.put usage.page
      Run.exit 0
    | none => return line.operands

/-- Settings of a run, with a warning for each statement that could not be read. -/
def settings (environment : Environment) (files : Files) : Run Settings := do
  let sources ← Run.demand (Settings.Sources.ofFiles environment files)
  sources.dotenv.badLines.forM fun n => Run.note (Dotenv.warning n ++ "\n")
  Run.demand (Settings.make sources [])

def setUpLog (s : Settings) : Run Unit := do
  let setup ← Run.demand ((← get).setup.configure s.verbosity.name s.logStyle.name)
  modify fun c => { c with setup }

def run (environment : Environment) (files : Files) (words : List String) : Run Unit := do
  if words.isEmpty then
    Run.complain usage.page
    Run.exit 2
  match ← readWords words with
  | [] => Run.misuse usage .missingCommand
  | name :: rest =>
    match commands.lookup name with
    | none =>
      -- A word behind two dashes that begins like an option is read as one after all.
      if name.startsWith "-" then
        let _ ← readWords (name :: rest)
      Run.misuse usage (.noSuchCommand name (Suggestion.nearest name (commands.map (·.1))))
    | some command =>
      let s ← settings environment files
      setUpLog s
      command ⟨environment, files, s⟩ rest

end Program

/-- What a run leaves: its exit code, its two texts, and the failure that nothing expected. -/
structure Outcome where
  exitCode : Nat
  out : String
  err : String
  failure : Option Failure
  deriving Repr

/-- Runs the program; `timestamp` is the time that stands in log lines. -/
def program (environment : Environment) (files : Files) (timestamp : String) (words : List String) :
    Outcome :=
  let (result, console) := (Program.run environment files words).run { timestamp }
  match result with
  | .ok () => ⟨0, console.out, console.err, none⟩
  | .error (.exit code) => ⟨code, console.out, console.err, none⟩
  | .error (.fault e) => ⟨1, console.out, console.err, some e⟩

end FeatureCert.Command
