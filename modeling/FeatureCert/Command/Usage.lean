import FeatureCert.Command.Suggestion
import FeatureCert.Files
import FeatureCert.Text.Quoted

/-!
Use of a command: its options and its operand, how the words of a command line become options with values
and operands, and the faults of a line that does not fit.
-/
namespace FeatureCert.Command

open FeatureCert.Text

/-- How a value is checked. -/
inductive Reading where
  | text
  | choice (words : List String)
  /-- A path that names no directory. -/
  | file (mustExist : Bool)
  deriving Repr

structure OptionSpec where
  names : List String
  takesValue : Bool := true
  /-- Whether every value counts; else the last one does. -/
  repeated : Bool := false
  reading : Reading := .text
  deriving Repr

/-- Name that an option's values are found by. -/
def OptionSpec.key (o : OptionSpec) : String := o.names.headD ""

structure Operand where
  name : String
  required : Bool
  reading : Reading
  deriving Repr

structure Usage where
  /-- Words that call the command. -/
  command : String
  /-- What follows these words. -/
  shape : String
  options : List OptionSpec
  operand : Option Operand := none
  /-- Whether options may come after an operand. -/
  mixed : Bool := true
  /-- The page that explains the command. -/
  page : String := ""
  deriving Repr

inductive UsageFault where
  | noSuchOption (name : String) (near : List String)
  | needsArgument (name : String)
  | takesNoValue (name : String)
  | invalid (place detail : String)
  | missingOperand (name : String)
  | extraOperands (operands : List String)
  | noSuchCommand (name : String) (near : List String)
  | missingCommand
  deriving DecidableEq, Repr

namespace UsageFault

/-- A message with the words that may have been meant. -/
def suggesting (message : String) (near : List String) : String :=
  match near.map quoted with
  | [] => message
  | [word] => s!"{message} Did you mean {word}?"
  | words => s!"{message} (Did you mean one of: " ++ ", ".intercalate words ++ "?)"

def message : UsageFault → String
  | .noSuchOption name near => suggesting s!"No such option {quoted name}." near
  | .needsArgument name => s!"Option {quoted name} requires an argument."
  | .takesNoValue name => s!"Option {quoted name} does not take a value."
  | .invalid place detail => s!"Invalid value for {place}: {detail}"
  | .missingOperand name => s!"Missing argument '{name}'."
  | .extraOperands [operand] => s!"Got unexpected extra argument ({operand})"
  | .extraOperands operands =>
    "Got unexpected extra arguments (" ++ " ".intercalate operands ++ ")"
  | .noSuchCommand name near => suggesting s!"No such command {quoted name}." near
  | .missingCommand => "Missing command."

/-- Whether the usage stands in front of a fault's message. -/
def showsUsage : UsageFault → Bool
  | .needsArgument _ => false
  | .takesNoValue _ => false
  | _ => true

/-- Text that reports a fault. -/
def report (usage : Usage) (fault : UsageFault) : String :=
  let lead := if fault.showsUsage then
      s!"Usage: {usage.command} {usage.shape}\n" ++
        s!"Try '{usage.command} --help' for help.\n\n"
    else ""
  s!"{lead}Error: {fault.message}\n"

end UsageFault

/-- Why a line is not taken: it does not fit, or a path of it cannot be looked up. -/
inductive Refusal where
  | unfit (fault : UsageFault)
  | badPath (fault : PathFault)
  deriving DecidableEq, Repr

/-- An option that is given; one without a value has an empty text. -/
structure Given where
  key : String
  value : String
  deriving DecidableEq, Repr

structure Line where
  given : List Given := []
  operands : List String := []
  deriving DecidableEq, Repr

namespace Line

def has (line : Line) (key : String) : Bool := line.given.any (·.key == key)

def all (line : Line) (key : String) : List String :=
  (line.given.filter (·.key == key)).map (·.value)

def last? (line : Line) (key : String) : Option String := (line.all key).getLast?

end Line

namespace Usage

/-- Whether a word begins like an option. -/
def isOptionWord (word : String) : Bool := word.startsWith "-" && 1 < word.length

def isLong (name : String) : Bool := name.startsWith "--"

def option? (usage : Usage) (name : String) : Option OptionSpec :=
  usage.options.find? (·.names.contains name)

def longNames (usage : Usage) : List String := (usage.options.flatMap (·.names)).filter isLong

/-- What one word gives: options, and the one whose value is the next word, with the name it has. -/
abbrev WordResult := List Given × Option (OptionSpec × String)

/-- A word of two dashes, which may hold a value behind an equals sign. -/
def longWord (usage : Usage) (word : String) : Except UsageFault WordResult :=
  let (before, after) := splitFirst '=' word.toList
  let name := String.ofList before
  match usage.option? name, after.map String.ofList with
  | none, _ => .error (.noSuchOption name (Suggestion.nearest name usage.longNames))
  | some o, some value =>
    if o.takesValue then .ok ([⟨o.key, value⟩], none) else .error (.takesNoValue name)
  | some o, none =>
    if o.takesValue then .ok ([], some (o, name)) else .ok ([⟨o.key, ""⟩], none)

/-- A word of one dash, whose letters are options; the rest behind one that takes a value is its value. -/
def shortWord (usage : Usage) : List Char → Except UsageFault WordResult
  | [] => .ok ([], none)
  | c :: rest =>
    let name := String.ofList ['-', c]
    match usage.option? name with
    | none => .error (.noSuchOption name [])
    | some o =>
      if o.takesValue then
        if rest.isEmpty then .ok ([], some (o, name))
        else .ok ([⟨o.key, String.ofList rest⟩], none)
      else do
        let (given, pending) ← shortWord usage rest
        return (⟨o.key, ""⟩ :: given, pending)

def optionWord (usage : Usage) (word : String) : Except UsageFault WordResult :=
  if isLong word then longWord usage word else shortWord usage (word.toList.drop 1)

/-- Reads words; `pending` is an option that waits for its value. -/
def readFrom (usage : Usage) (pending : Option (OptionSpec × String)) :
    List String → Except UsageFault Line
  | [] =>
    match pending with
    | some (_, name) => .error (.needsArgument name)
    | none => .ok {}
  | word :: rest =>
    match pending with
    | some (o, _) => do
      let line ← readFrom usage none rest
      return { line with given := ⟨o.key, word⟩ :: line.given }
    | none =>
      if word == "--" then .ok { operands := rest }
      else if isOptionWord word then
        match optionWord usage word with
        | .error e => .error e
        | .ok (given, pending) => do
          let line ← readFrom usage pending rest
          return { line with given := given ++ line.given }
      else if usage.mixed then do
        let line ← readFrom usage none rest
        return { line with operands := word :: line.operands }
      else .ok { operands := word :: rest }

def read (usage : Usage) (words : List String) : Except UsageFault Line := usage.readFrom none words

/-- Checks a value; `place` names where it stands. -/
def checkValue (files : Files) (place value : String) : Reading → Except Refusal Unit
  | .text => .ok ()
  | .choice words =>
    if words.contains value then .ok ()
    else
      let known := ", ".intercalate (words.map quoted)
      invalid s!"{quoted value} is not one of {known}."
  | .file mustExist =>
    match files.find value with
    | .error fault => .error (.badPath fault)
    | .ok none =>
      if mustExist then invalid s!"File {shown} does not exist." else .ok ()
    | .ok (some .directory) => invalid s!"File {shown} is a directory."
    | .ok (some (.file _)) => .ok ()
where
  shown : String := quoted (Files.shownPath value)
  invalid (detail : String) : Except Refusal Unit := .error (.unfit (.invalid place detail))

def checkOption (usage : Usage) (files : Files) (line : Line) (key : String) :
    Except Refusal Unit :=
  match usage.option? key with
  | none => .ok ()
  | some o =>
    let place := " / ".intercalate (o.names.map fun n => s!"'{n}'")
    let values := if o.repeated then line.all key else (line.last? key).toList
    values.forM fun value => checkValue files place value o.reading

/-- Checks the options in the order in which they are given first, and then the operands. -/
def check (usage : Usage) (files : Files) (line : Line) : Except Refusal Unit := do
  (line.given.map (·.key)).eraseDups.forM (usage.checkOption files line)
  match usage.operand, line.operands with
  | none, [] => return
  | none, operands => throw (.unfit (.extraOperands operands))
  | some o, [] => if o.required then throw (.unfit (.missingOperand o.name))
  | some o, operand :: more =>
    checkValue files s!"'{o.name}'" operand o.reading
    if !more.isEmpty then throw (.unfit (.extraOperands more))

end Usage
end FeatureCert.Command
