import FeatureCert.Command.Usage
import FeatureCert.Log.Setup
import FeatureCert.Log.Traced
import FeatureCert.Settings.Basic
import FeatureCert.Text.Control

/-!
Runs of a command: what it has printed so far, and how it ends. A run ends with an exit code, or with a
failure that no command expects.
-/
namespace FeatureCert.Command

open FeatureCert.Log FeatureCert.Text

structure Console where
  out : String := ""
  err : String := ""
  setup : Setup := {}
  /-- Time that stands in log lines. -/
  timestamp : String
  deriving Repr

inductive Ending where
  | exit (code : Nat)
  | fault (failure : Failure)
  deriving Repr

abbrev Run (α : Type) := ExceptT Ending (StateM Console) α

structure Context where
  environment : Environment
  files : Files
  settings : Settings

namespace Run

/-- Prints a text, which must have octets. -/
def put (text : String) : Run Unit := do
  let text := dropSequences text
  if hasHalf text then throw (.fault .noOctets)
  modify fun c => { c with out := c.out ++ text }

def say (line : String) : Run Unit := put (line ++ "\n")

def note (text : String) : Run Unit := modify fun c => { c with err := c.err ++ escapeHalves text }

def complain (text : String) : Run Unit := note (dropSequences text)

def exit (code : Nat) : Run α := throw (.exit code)

/-- The result of a computation that must not fail. -/
def demand (x : Except Failure α) : Run α :=
  match x with
  | .ok a => pure a
  | .error e => throw (.fault e)

/-- Runs a traced computation, with its records written to the log. -/
def logged (x : Traced Failure α) : Run (Except Failure α) := do
  let (result, records) := x.outcome
  let setup := (← get).setup
  let timestamp := (← get).timestamp
  note (String.join (records.map (setup.written timestamp)))
  return result

/-- A traced computation that must not fail. -/
def expect (x : Traced Failure α) : Run α := do demand (← logged x)

/-- Ends with a message about an error. -/
def reject (message : String) (code : Nat) : Run α := do
  complain s!"Error: {message}\n"
  exit code

/-- Ends with a report of a fault in the command line. -/
def misuse (usage : Usage) (fault : UsageFault) : Run α := do
  complain (fault.report usage)
  exit 2

/-- Reads the words of a command line; a call for help ends with the command's page. -/
def readLine (usage : Usage) (files : Files) (words : List String) : Run Line := do
  match usage.read words with
  | .error fault => misuse usage fault
  | .ok line =>
    if line.has "--help" then
      put usage.page
      exit 0
    match usage.check files line with
    | .error (.unfit fault) => misuse usage fault
    | .error (.badPath fault) => throw (.fault (.badPath fault))
    | .ok () => return line

end Run

/-- Wording of a failure that a command reports. -/
def Failure.report? (e : Failure) : Option String :=
  match e with
  | .schema form issues =>
    let noun := if issues.length == 1 then "error" else "errors"
    some s!"{issues.length} validation {noun} for {form}"
  | e => e.message?

def helpOption : OptionSpec := { names := ["--help"], takesValue := false }

def catalogOption : OptionSpec := { names := ["--catalog"], reading := .file false }

def Line.path? (line : Line) (key : String) : Option Path := (line.last? key).map .ofText

end FeatureCert.Command
