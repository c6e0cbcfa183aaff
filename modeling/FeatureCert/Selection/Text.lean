import FeatureCert.Identifier
import FeatureCert.Numeral.Literal
import FeatureCert.Selection.Basic

/-!
Selections in words: a value is a word for on or off or an integer literal, which a C suffix may
follow; a definition is a name, or a name and a value with an equals sign between them.
-/
namespace FeatureCert.Selection

open FeatureCert.Text FeatureCert.Numeral

inductive TextFault where
  | badValue (text : String)
  | badName (name source : String)
  deriving DecidableEq, Repr

def TextFault.message : TextFault → String
  | .badValue text => "Cannot parse selection value " ++ quoted text
  | .badName name source => "Invalid capability name " ++ quoted name ++ " in " ++ quoted source

def onWords : List String := ["true", "on", "yes", "enable", "enabled"]

def offWords : List String := ["false", "off", "no", "disable", "disabled"]

def isSuffixLetter (c : Char) : Bool := c == 'u' || c == 'l'

def isLowerHex (c : Char) : Bool := c.isDigit || ('a' ≤ c && c ≤ 'f')

/-- Drops a run of suffix letters at the end that follows a hexadecimal digit. -/
def dropSuffix (word : List Char) : List Char :=
  let stem := word.reverse.dropWhile isSuffixLetter
  match stem with
  | c :: _ => if isLowerHex c then stem.reverse else word
  | [] => word

/-- Value of a trimmed word in lower case. -/
def wordValue? (word : List Char) : Option Value :=
  let text := String.ofList word
  if onWords.contains text then some (.bool true)
  else if offWords.contains text then some (.bool false)
  else (literal? (dropSuffix word)).map .int

def parseValue (text : String) : Except TextFault Value :=
  match wordValue? (lower (trim text.toList)) with
  | some v => .ok v
  | none => .error (.badValue text)

/-- Name that a text holds between blanks; `source` is the text for the error. -/
def parseName (name : List Char) (source : String) : Except TextFault String :=
  let name := trim name
  if Identifier.isValid name then .ok (String.ofList name)
  else .error (.badName (String.ofList name) source)

/-- Reads a name, which is then on, or a name and a value. -/
def parseDefine (text : String) : Except TextFault (String × Value) := do
  let (before, after) := splitFirst '=' text.toList
  let name ← parseName before text
  match after with
  | none => return (name, .bool true)
  | some rest => return (name, ← parseValue (String.ofList rest))

/-- Reads a name, which is then off. -/
def parseUndefine (text : String) : Except TextFault (String × Value) := do
  let name ← parseName text.toList text
  return (name, .bool false)

/-- Selection out of environment variables whose key is `lead` and a name, in the order of keys. -/
def fromEnvironment (lead : String) (bindings : List (String × String)) :
    Except TextFault (List (String × Value)) :=
  let sorted := bindings.mergeSort fun a b => inOrder a.1 b.1
  let named := sorted.filter fun (key, _) =>
    startsWith lead.toList key.toList && lead.length < key.length
  named.mapM fun (key, text) => do
    let name ← parseName (key.toList.drop lead.length) key
    return (name, ← parseValue text)

end FeatureCert.Selection
