import FeatureCert.Log.Record
import FeatureCert.Selection.Text

/-!
Selections out of a C configuration header. A line that defines a macro turns the name on or gives it a
number; the same line behind a comment mark turns it off. Include guards and reserved names are no
selections, and a common lead of the names is dropped.
-/
namespace FeatureCert.Selection

open FeatureCert.Text FeatureCert.Numeral

/-- A number in a header that is no literal: a leading zero, or too many digits. -/
structure BadLiteral where
  text : String
  deriving DecidableEq, Repr

def defaultLead : String := "MBEDCRYPTO_"

/-- One line that toggles a name; `replacement` is the text after the name of an active line. -/
structure Toggle where
  name : String
  replacement : Option (List Char)
  deriving DecidableEq, Repr

def after? (start cs : List Char) : Option (List Char) :=
  if startsWith start cs then some (cs.drop start.length) else none

/-- Name that a definition gives, and the text after it. -/
def definition? (cs : List Char) : Option (String × List Char) := do
  let rest ← after? ['#'] cs
  let rest ← after? ['d', 'e', 'f', 'i', 'n', 'e'] (rest.dropWhile isBlank)
  match rest with
  | c :: _ =>
    if isBlank c then
      match rest.dropWhile isBlank with
      | d :: more =>
        if Identifier.isStart d then
          some (String.ofList (d :: more.takeWhile isWord), more.dropWhile isWord)
        else none
      | [] => none
    else none
  | [] => none

/-- Text behind a mark that opens a comment: slashes, or a slash and stars. -/
def behindMark? (cs : List Char) : Option (List Char) :=
  match cs with
  | '/' :: '/' :: rest => some (rest.dropWhile (· == '/'))
  | '/' :: '*' :: rest => some (rest.dropWhile (· == '*'))
  | _ => none

/-- The toggle of a line. -/
def toggle? (line : List Char) : Option Toggle :=
  let line := line.dropWhile isBlank
  match definition? line with
  | some (name, rest) => some ⟨name, some rest⟩
  | none => do
    let rest ← behindMark? line
    let (name, _) ← definition? (rest.dropWhile isBlank)
    return ⟨name, none⟩

/-- A text without comments; one that is not closed goes to the end. -/
def dropComments : List Char → List Char
  | [] => []
  | '/' :: '/' :: _ => []
  | '/' :: '*' :: rest => inside rest
  | c :: rest => c :: dropComments rest
where
  inside : List Char → List Char
    | [] => []
    | '*' :: '/' :: rest => dropComments rest
    | _ :: rest => inside rest

def isDecimalDigit (c : Char) : Bool := (digitValue? c).isSome

def isHexDigit (c : Char) : Bool := (digitIn? 16 c).isSome

def isSuffix (c : Char) : Bool := c == 'u' || c == 'U' || c == 'l' || c == 'L'

def splitMinus (cs : List Char) : List Char × List Char :=
  match cs with
  | '-' :: rest => (['-'], rest)
  | _ => ([], cs)

/-- A minus or none, and decimal digits of any script, at the start of a replacement text. -/
def decimalPart? (cs : List Char) : Option (List Char) :=
  let (sign, digits) := splitMinus cs
  let body := digits.takeWhile isDecimalDigit
  if body.isEmpty || !(digits.dropWhile isDecimalDigit).all isSuffix then none
  else some (sign ++ body)

/-- Digits at the start of a replacement text that is a number with an optional suffix. -/
def numberPart? (cs : List Char) : Option (List Char) :=
  match cs with
  | '0' :: x :: rest =>
    let body := rest.takeWhile isHexDigit
    if (x == 'x' || x == 'X') && !body.isEmpty && (rest.dropWhile isHexDigit).all isSuffix then
      some ('0' :: x :: body)
    else decimalPart? cs
  | _ => decimalPart? cs

/-- Value of a replacement text: its number, or on where it is none. -/
def replacementValue (rest : List Char) : Except BadLiteral Value :=
  match numberPart? (trim (dropComments rest)) with
  | none => .ok (.bool true)
  | some digits =>
    match literal? digits with
    | some n => .ok (.int n)
    | none => .error ⟨String.ofList digits⟩

def Toggle.value (t : Toggle) : Except BadLiteral Value :=
  match t.replacement with
  | none => .ok (.bool false)
  | some rest => replacementValue rest

/-- Reserved names and include guards. -/
def isReserved (name : List Char) : Bool :=
  startsWith ['_'] name || startsWith ['H', '_'] name.reverse

def dropLead (lead name : List Char) : List Char :=
  if !lead.isEmpty && startsWith lead name then name.drop lead.length else name

/-- Pair of one toggle, unless its name is reserved. -/
def Toggle.pair? (lead : String) (t : Toggle) : Except BadLiteral (Option (String × Value)) := do
  let v ← t.value
  let name := t.name.toList
  return if isReserved name then none
    else some (String.ofList (dropLead lead.toList name), v)

def toggles (text : String) : List Toggle := (lines text.toList).filterMap toggle?

/-- Selection of a header: the last line of a name decides, its first line gives the place. -/
def fromHeader (lead text : String) : Except BadLiteral (List (String × Value)) := do
  let pairs ← (toggles text).mapM (Toggle.pair? lead)
  return collect (pairs.filterMap id)

def isOff : Value → Bool
  | .bool b => !b
  | _ => false

def headerRecord (pairs : List (String × Value)) : Log.Record :=
  let enabled := pairs.countP (!isOff ·.2)
  ⟨Log.debug, "cryptoconf.snapshot.header",
    s!"Parsed config header: {pairs.length} selections ({enabled} enabled)"⟩

end FeatureCert.Selection
