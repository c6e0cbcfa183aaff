import FeatureCert.Document.Issue
import FeatureCert.Identifier
import FeatureCert.Value.Text

/-!
Shapes of document parts: checks that read a value as a text, a number, a list or a record with known
fields. A strict shape takes only its own kind of value, a lenient one converts what stands for it.
-/
namespace FeatureCert.Document

open FeatureCert.Text FeatureCert.Numeral

/-- A check of a value that reads it as an `α`. -/
abbrev Shape (α : Type) := Value → Checked α

def textOfOctets? (octets : List Nat) : Option String :=
  String.fromUTF8? ⟨(octets.map UInt8.ofNat).toArray⟩

def text : Shape String
  | .text s => .good s
  | .bytes octets =>
    match textOfOctets? octets with
    | some s => .good s
    | none => .fail .stringUnicode
  | _ => .fail .stringType

/-- A text whose characters are looked at, so that it may hold no half. -/
def wholeText (s : String) : Checked String :=
  if hasHalf s then .fail .stringUnicode else .good s

def nonEmptyText : Shape String := fun v =>
  ((text v).andThen wholeText).andThen fun s =>
    if s.isEmpty then .fail .stringTooShort else .good s

def identifier : Shape String := fun v =>
  (nonEmptyText v).andThen fun s =>
    if Identifier.isValid s.toList then .good s else .fail .stringPatternMismatch

/-- One of several fixed texts, each of which stands for something. -/
def choice (otherwise : IssueKind) (read? : String → Option α) : Shape α
  | .text s =>
    (wholeText s).andThen fun s =>
      match read? s with
      | some a => .good a
      | none => .fail otherwise
  | _ => .fail otherwise

/-- One fixed text. -/
def literal (expected : String) : Shape Unit :=
  choice .literalError fun s => if s == expected then some () else none

/-- Name of a member of an enumeration, as a text or in octets. -/
def member (read? : String → Option α) : Shape α := fun v =>
  match v with
  | .bytes octets =>
    match (textOfOctets? octets).bind read? with
    | some a => .good a
    | none => .fail .enumValue
  | v => choice .enumValue read? v

def strictInt : Shape Int
  | .int n => .good n
  | _ => .fail .intType

def nullable (shape : Shape α) : Shape (Option α)
  | .null => .good none
  | v => (shape v).map some

def onTexts : List String := ["1", "on", "t", "true", "y", "yes"]

def offTexts : List String := ["0", "off", "f", "false", "n", "no"]

def isWord (n : Int) : Bool := -0x8000000000000000 ≤ n && n < 0x8000000000000000

/-- Bounds within which a floating number stands for an integer. -/
def isSmallFloat (n : Int) : Bool := -0x8000000000000000 < n && n < 0x8000000000000000

/-- A switch by its number; `known` tells that the number is of a size that may stand for one. -/
def boolOfInt (known : Bool) : Int → Checked Bool
  | 0 => .good false
  | 1 => .good true
  | _ => .fail (if known then .boolParsing else .boolType)

/-- A switch, or a number or word that stands for one. -/
def lenientBool : Shape Bool
  | .bool b => .good b
  | .int n => boolOfInt (isWord n) n
  | .float x =>
    match x.toInt? with
    | some n => boolOfInt (isSmallFloat n) n
    | none => .fail .boolType
  | .text s =>
    let word := s.toLower
    if hasHalf s then .fail .stringUnicode
    else if onTexts.contains word then .good true
    else if offTexts.contains word then .good false
    else .fail .boolParsing
  | _ => .fail .boolType

/-- The part of a number that counts: zeros in front of it are dropped, and a text that does not start as
a number has none. -/
def dropLeadingZeros? : List Char → Option (List Char)
  | '0' :: rest => within '0' rest
  | '-' :: d :: rest => if d.isDigit then some ('-' :: d :: rest) else none
  | c :: rest => if '1' ≤ c ∧ c ≤ '9' then some (c :: rest) else none
  | [] => none
where
  within (last : Char) : List Char → Option (List Char)
    | [] => some [last]
    | c :: rest =>
      if c = '0' ∨ c = '_' then within c rest
      else if ('1' ≤ c ∧ c ≤ '9') ∨ c = '-' then some (c :: rest)
      else if c = '.' then some (last :: c :: rest)
      else none

/-- Drops a fraction of zeros, of which there is one at least. -/
def dropZeroFraction (cs : List Char) : List Char :=
  match splitFirst '.' cs with
  | (before, some after) => if !after.isEmpty && after.all (· == '0') then before else cs
  | (_, none) => cs

/-- Drops underscores that stand singly inside. -/
def dropUnderscores (cs : List Char) : List Char :=
  let outer := cs.head? == some '_' || cs.getLast? == some '_'
  let doubled := (cs.zip cs.tail).contains ('_', '_')
  if outer || doubled then cs else cs.filter (· != '_')

/-- Sign and decimal digits of a text, with blanks around it. -/
def digitsOfText? (cs : List Char) : Option (Bool × List Char) := do
  let cs := match trimSpaces cs with
    | '+' :: '-' :: rest => '+' :: '-' :: rest
    | '+' :: rest => rest
    | cs => cs
  let cs := dropUnderscores (dropZeroFraction (← dropLeadingZeros? cs))
  let (negative, digits) := match cs with
    | '-' :: rest => (true, rest)
    | _ => (false, cs)
  if digits.isEmpty || !digits.all Char.isDigit then none else some (negative, digits)

def intOfText (s : String) : Checked Int :=
  if hasHalf s then .fail .stringUnicode
  else
    match digitsOfText? s.toList with
    | none => .fail .intParsing
    | some (negative, digits) =>
      if maxDigits < digits.length then .fail .intParsingSize
      else .good (signed negative (ofDigits 10 (digits.filterMap (digitIn? 10))))

/-- An integer, or a switch, number or text that stands for one. -/
def lenientInt : Shape Int
  | .int n => .good n
  | .bool b => .good (if b then 1 else 0)
  | .float x =>
    match x with
    | .finite .. =>
      match x.toInt? with
      | some n => if isSmallFloat n then .good n else .fail .intParsingSize
      | none => .fail .intFromFloat
    | _ => .fail .finiteNumber
  | .text s => intOfText s
  | _ => .fail .intType

/-- Members of a list or of what may stand for one. -/
def members? (v : Value) : Option (List Value) :=
  match v.opened with
  | .list items => some items
  | .tuple items => some items
  | .set items => some items
  | _ => none

def listOf (shape : Shape α) : Shape (List α) := fun v =>
  match members? v with
  | some items => Checked.indexed shape items
  | none => .fail .listType

/-- A fixed sequence whose members have a shape. -/
def sequenceOf (shape : Shape α) : Shape (List α) := fun v =>
  match members? v with
  | some items => Checked.indexed shape items
  | none => .fail .tupleType

/-- A fixed sequence of which one member at least has a shape. -/
def someOf (shape : Shape α) : Shape (List α) := fun v =>
  match members? v with
  | some items =>
    let fitting := items.countP fun item => (shape item).isGood
    if fitting = 0 then
      match Checked.indexed shape items with
      | .good _ => .fail .tooShort
      | .bad issues => .bad (issues ++ [⟨.tooShort, []⟩])
    else Checked.indexed shape items
  | none => .fail .tupleType

/-- Step of a key; a number is a position where it fits a machine word. -/
def keyStep : Value → Step
  | .text s => .key (replaceHalves s)
  | .bool b => .index (if b then 1 else 0)
  | .int n =>
    if isWord n then .index n
    else .key ((decimal n).toOption.getD "<unprintable int object>")
  | v => .key (v.inspect.toOption.getD s!"<unprintable {v.kindName} object>")

def entries? (v : Value) : Option (List (Value × Value)) :=
  match v.opened with
  | .dict entries => some entries
  | _ => none

/-- Entries of a dictionary whose keys are texts. -/
def textKeys (entries : List (Value × Value)) : Checked (List (String × Value)) :=
  Checked.all (fun (key, item) =>
    ((text key).under (.key "[key]")).under (keyStep key) |>.map (·, item)) entries

/-- A dictionary with text keys and any values. -/
def table : Shape (List (String × Value)) := fun v =>
  match entries? v with
  | some entries => textKeys entries
  | none => .fail .dictType

/-- A record out of the entries of a dictionary; the characters of all its keys are looked at. -/
def record (read : List (Value × Value) → Checked α) : Shape α := fun v =>
  match entries? v with
  | some entries => wholeKeys entries fun _ => read entries
  | none => .fail .modelType
where
  wholeKeys (entries : List (Value × Value)) (read : Unit → Checked α) : Checked α :=
    let isBroken (key : Value) : Bool := match key with
      | .text s => hasHalf s
      | _ => false
    if entries.any (isBroken ·.1) then .fail .stringUnicode else read ()

def required (entries : List (Value × Value)) (name : String) (shape : Shape α) : Checked α :=
  match Value.lookup? (.text name) entries with
  | some v => (shape v).under (.key name)
  | none => .bad [⟨.missing, [.key name]⟩]

def optional (entries : List (Value × Value)) (name : String) (default : α) (shape : Shape α) :
    Checked α :=
  match Value.lookup? (.text name) entries with
  | some v => (shape v).under (.key name)
  | none => .good default

/-- Issue of a key that is none of the known fields. -/
def extraIssue? (known : List String) : Value → Option Issue
  | .text s => if known.contains s then none else some ⟨.extraForbidden, [.key s]⟩
  | key => some ⟨.invalidKey, [keyStep key]⟩

/-- No other keys than the known ones. -/
def closed (entries : List (Value × Value)) (known : List String) : Checked Unit :=
  match entries.filterMap fun e => extraIssue? known e.1 with
  | [] => .good ()
  | issues => .bad issues

/-- A record whose kind field chooses among several forms; issues stand under the kind's name. -/
def tagged (read? : String → Option κ) (name : κ → String)
    (form : κ → List (Value × Value) → Checked α) : Shape α := fun v =>
  match entries? v with
  | none => .fail .attributesType
  | some entries =>
    match Value.lookup? (.text "kind") entries with
    | none => .fail .tagNotFound
    | some tag =>
      (choice .tagInvalid read? tag).andThen fun kind =>
        (record (form kind) v).under (.key (name kind))

end FeatureCert.Document
