import FeatureCert.Text.Classes
import FeatureCert.Text.Half

/-!
Environments: variables in the order in which they were set, and the home directories of users. A text may
name variables behind dollar signs, and a path may begin at a home directory.
-/
namespace FeatureCert

structure Environment where
  bindings : List (String × String) := []
  /-- Home directories of users by name. -/
  homes : List (String × String) := []
  /-- Home directory where no variable names one. -/
  ownHome : Option String := none
  deriving Repr

inductive BindingFault where
  | noName
  /-- A name with an equals sign. -/
  | badName
  /-- The character NUL, which ends a variable. -/
  | holdsNul
  /-- A half, which has no octets unless it stands for one. -/
  | holdsHalf
  deriving DecidableEq, Repr

namespace Environment

open FeatureCert.Text

/-- Why a name and a value are no variable. -/
def bindingFault? (name value : String) : Option BindingFault :=
  let cs := name.toList ++ value.toList
  if cs.any fun c => isHalf c && !isLooseOctet c then some .holdsHalf
  else if cs.contains '\x00' then some .holdsNul
  else if name.toList.contains '=' then some .badName
  else if name.isEmpty then some .noName
  else none

def get? (e : Environment) (name : String) : Option String :=
  (e.bindings.find? (·.1 == name)).map (·.2)

/-- Sets a variable; one that is there keeps its place. -/
def set (e : Environment) (name value : String) : Environment :=
  if e.bindings.any (·.1 == name) then
    { e with bindings := e.bindings.map fun v => if v.1 == name then (name, value) else v }
  else { e with bindings := e.bindings ++ [(name, value)] }

def assign (e : Environment) (name value : String) : Except BindingFault Environment :=
  match bindingFault? name value with
  | some fault => .error fault
  | none => .ok (e.set name value)

def unset (e : Environment) (name : String) : Environment :=
  { e with bindings := e.bindings.filter (·.1 != name) }

/-- An ASCII letter, digit or underscore. -/
def isNameChar (c : Char) : Bool := c.isAlphanum || c == '_'

/-- A variable's name behind a dollar sign, with or without braces, and the text after it. -/
def reference? (cs : List Char) : Option (String × List Char) :=
  match cs with
  | '\x7b' :: rest =>
    match splitFirst '\x7d' rest with
    | (name, some after) => some (String.ofList name, after)
    | (_, none) => none
  | _ =>
    let name := cs.takeWhile isNameChar
    if name.isEmpty then none else some (String.ofList name, cs.drop name.length)

/-- Puts values in place of the variables that a text names; `skip` characters were used already. A name
without a variable stays as it is. -/
def expandFrom (e : Environment) (skip : Nat) : List Char → List Char
  | [] => []
  | c :: rest =>
    match skip with
    | n + 1 => expandFrom e n rest
    | 0 =>
      if c == '$' then
        match reference? rest with
        | some (name, after) =>
          let length := rest.length - after.length
          match e.get? name with
          | some value => value.toList ++ expandFrom e length rest
          | none => '$' :: rest.take length ++ expandFrom e length rest
        | none => '$' :: expandFrom e 0 rest
      else c :: expandFrom e 0 rest

def expandVariables (e : Environment) (text : String) : String :=
  String.ofList (e.expandFrom 0 text.toList)

/-- Home directory that the name behind a tilde stands for. -/
def home? (e : Environment) (user : List Char) : Option String :=
  if user.isEmpty then e.get? "HOME" <|> e.ownHome
  else (e.homes.find? (·.1 == String.ofList user)).map (·.2)

/-- Puts a home directory in place of a tilde at the start of a path. -/
def expandHome (e : Environment) (path : String) : String :=
  match path.toList with
  | '~' :: rest =>
    let user := rest.takeWhile (· != '/')
    match e.home? user with
    | some home =>
      let stem := (home.toList.reverse.dropWhile (· == '/')).reverse
      let full := stem ++ rest.drop user.length
      if full.isEmpty then "/" else String.ofList full
    | none => path
  | _ => path

end Environment
end FeatureCert
