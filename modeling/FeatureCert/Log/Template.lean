import FeatureCert.Binary64.Layout
import FeatureCert.Log.Record

/-!
Message templates: text with slots that begin with a percent sign, each of which takes an argument and
says how it is written. A template that is given a table takes its arguments by key.
-/
namespace FeatureCert.Log

open FeatureCert.Text FeatureCert.Numeral

/-- A number that a template gives, or that it takes from its arguments. -/
inductive Amount where
  | fixed (n : Nat)
  | argument
  deriving DecidableEq, Repr

structure Slot where
  key : Option String := none
  /-- Text goes to the left of its field. -/
  left : Bool := false
  plus : Bool := false
  blank : Bool := false
  /-- The form that shows base or point. -/
  full : Bool := false
  zeros : Bool := false
  width : Option Amount := none
  precision : Option Amount := none
  conversion : Char := 's'
  deriving Repr

inductive Piece where
  | char (c : Char)
  | slot (s : Slot)
  /-- A slot that the template's end breaks off. -/
  | unfinished (s : Slot)
  /-- A slot whose key has no end. -/
  | openKey
  deriving Repr

namespace Template

/-- Text of a key up to its closing parenthesis, with what follows. -/
def keyText? (depth : Nat) : List Char → Option (List Char × List Char)
  | [] => none
  | c :: rest =>
    if c == ')' && depth == 0 then some ([], rest)
    else
      let depth := if c == '(' then depth + 1 else if c == ')' then depth - 1 else depth
      (keyText? depth rest).map fun (key, after) => (c :: key, after)

/-- Sets the flag of a character. -/
def flag? (s : Slot) (c : Char) : Option Slot :=
  match c with
  | '-' => some { s with left := true }
  | '+' => some { s with plus := true }
  | ' ' => some { s with blank := true }
  | '#' => some { s with full := true }
  | '0' => some { s with zeros := true }
  | _ => none

def flags (s : Slot) : List Char → Slot × List Char
  | [] => (s, [])
  | c :: rest =>
    match flag? s c with
    | some s => flags s rest
    | none => (s, c :: rest)

/-- A number or a star at the start of a text. -/
def amount (cs : List Char) : Option Amount × List Char :=
  match cs with
  | '*' :: rest => (some .argument, rest)
  | _ =>
    let digits := cs.takeWhile Char.isDigit
    if digits.isEmpty then (none, cs)
    else (some (.fixed (ofDigits 10 (digits.filterMap (digitIn? 10)))), cs.drop digits.length)

/-- Slot behind a percent sign, with what follows it; nothing follows one that breaks off. -/
def slot (key : Option String) (cs : List Char) : Slot × Option (List Char) :=
  let (s, cs) := flags { key } cs
  let (width, cs) := amount cs
  let (precision, cs) := match cs with
    | '.' :: rest =>
      let (p, rest) := amount rest
      (some (p.getD (.fixed 0)), rest)
    | _ => (none, cs)
  let cs := match cs with
    | c :: rest => if c == 'h' || c == 'l' || c == 'L' then rest else cs
    | [] => cs
  match cs with
  | c :: rest => ({ s with width, precision, conversion := c }, some rest)
  | [] => ({ s with width, precision }, none)

/-- Pieces of a template; two percent signs stand for one. -/
def pieces : Nat → List Char → List Piece
  | 0, _ => []
  | _, [] => []
  | fuel + 1, '%' :: '%' :: rest => .char '%' :: pieces fuel rest
  | fuel + 1, '%' :: rest =>
    let keyed? := match rest with
      | '(' :: more => (keyText? 0 more).map fun (key, after) => (some (String.ofList key), after)
      | _ => some (none, rest)
    match keyed? with
    | none => [.openKey]
    | some (key, rest) =>
      match slot key rest with
      | (s, none) => [.unfinished s]
      | (s, some rest) => .slot s :: pieces fuel rest
  | fuel + 1, c :: rest => .char c :: pieces fuel rest

/-- Arguments that are left, and the table that keys are looked up in. -/
structure Supply where
  values : List Value
  table : Option (List (Value × Value))

abbrev Fill := StateT Supply (Except LineFault)

def next : Fill Value := do
  match (← get).values with
  | v :: rest =>
    modify fun s => { s with values := rest }
    return v
  | [] => throw .mismatch

def nextInt : Fill Int := do
  match ← next with
  | .int n => return n
  | .bool b => return if b then 1 else 0
  | _ => throw .mismatch

/-- Width of a field, which a negative one fills from the right; it fits 64 bits. -/
def widthOf (a : Amount) : Fill Int := do
  match a with
  | .fixed n => if n < 0x8000000000000000 then return n else throw .malformed
  | .argument =>
    let n ← nextInt
    if -0x8000000000000000 ≤ n && n < 0x8000000000000000 then return n else throw .tooLarge

/-- Precision, which fits 32 bits; a negative one counts as zero. -/
def precisionOf (a : Amount) : Fill Nat := do
  match a with
  | .fixed n => if n < 0x80000000 then return n else throw .malformed
  | .argument =>
    let n ← nextInt
    if -0x80000000 ≤ n && n < 0x80000000 then return n.toNat else throw .tooLarge

/-- Length that no field or number may reach. -/
def maxLength : Nat := 0x8000000

def maxPrecision : Nat := 0x7ffffffc

/-- A text of a sign, a mark of its base, and a body. -/
structure Written where
  sign : List Char := []
  mark : List Char := []
  body : List Char
  isNumber : Bool := false

def place (s : Slot) (width : Int) (w : Written) : Except LineFault (List Char) :=
  let left := s.left || width < 0
  let length := w.sign.length + w.mark.length + w.body.length
  let gap := width.natAbs - length
  if maxLength ≤ gap then .error .tooLong
  else if left then .ok (w.sign ++ w.mark ++ w.body ++ List.replicate gap ' ')
  else if s.zeros && w.isNumber then
    .ok (w.sign ++ w.mark ++ List.replicate gap '0' ++ w.body)
  else .ok (List.replicate gap ' ' ++ w.sign ++ w.mark ++ w.body)

def textBody (x : Except DigitLimit String) : Except LineFault (List Char) :=
  match x with
  | .ok s => .ok s.toList
  | .error _ => .error .malformed

/-- Text in printable ASCII. -/
def escapeAll (cs : List Char) : List Char :=
  cs.flatMap fun c => if c.toNat < 128 then [c] else escapeCode (codeOf c)

def signOf (s : Slot) (negative : Bool) : List Char :=
  if negative then ['-'] else if s.plus then ['+'] else if s.blank then [' '] else []

/-- An integer with at least `precision` digits. -/
def writeInt (s : Slot) (precision : Nat) (mark : List Char)
    (digits : Except LineFault (List Char)) (negative : Bool) : Except LineFault Written := do
  if maxPrecision < precision then throw .tooLarge
  let digits ← digits
  if maxLength ≤ precision then throw .tooLong
  return ⟨signOf s negative, mark, List.replicate (precision - digits.length) '0' ++ digits, true⟩

def wholeOf (v : Value) : Except LineFault Int :=
  match v with
  | .int n => .ok n
  | .bool b => .ok (if b then 1 else 0)
  | .float x =>
    match x with
    | .nan => .error .malformed
    | .infinite _ => .error .tooLarge
    | .finite negative _ _ =>
      match x.ratio? with
      | some (n, d) => .ok (signed negative (n.natAbs / d))
      | none => .error .malformed
  | _ => .error .mismatch

/-- An integer that is no rounded number. -/
def exactOf (v : Value) : Except LineFault Int :=
  match v with
  | .int n => .ok n
  | .bool b => .ok (if b then 1 else 0)
  | _ => .error .mismatch

def numberOf (v : Value) : Except LineFault Binary64 :=
  match v with
  | .float x => .ok x
  | .int n =>
    match Binary64.ofInt n with
    | .infinite _ => .error .tooLarge
    | x => .ok x
  | .bool b => .ok (.ofInt (if b then 1 else 0))
  | _ => .error .mismatch

/-- Whether a number has as many digits as the precision asks for, zeros at its end with them. -/
def padsDigits (s : Slot) (x : Binary64) : Bool :=
  match x with
  | .finite .. => s.full || s.conversion.toLower != 'g'
  | _ => false

/-- A number in one of the forms with a precision. -/
def writeFloat (s : Slot) (precision : Nat) (x : Binary64) : Written :=
  let form : Binary64.Size → List Char :=
    match s.conversion.toLower with
    | 'f' => Binary64.fixed precision s.full
    | 'e' => Binary64.exponential precision s.full
    | _ => Binary64.general precision s.full
  let cased (cs : List Char) := if s.conversion.isUpper then cs.map Char.toUpper else cs
  match x with
  | .nan => ⟨signOf s false, [], cased "nan".toList, true⟩
  | .infinite negative => ⟨signOf s negative, [], cased "inf".toList, true⟩
  | .finite negative m e =>
    ⟨signOf s negative, [], cased (form (Binary64.timesPower 2 m 1 e)), true⟩

/-- A single character, given by its code or as a text. -/
def charOf (v : Value) : Except LineFault (List Char) :=
  match v with
  | .text t => match t.toList with
    | [c] => .ok [c]
    | _ => .error .mismatch
  | v => do
    let n ← exactOf v
    if 0 ≤ n && n < 0x110000 then return [ofCode n.toNat] else throw .tooLarge

/-- What a slot writes of an argument. -/
def write (s : Slot) (precision : Option Nat) (v : Value) : Except LineFault Written := do
  let cut (cs : List Char) : Written := ⟨[], [], (precision.map cs.take).getD cs, false⟩
  let inBase (base : Nat) (mark : List Char) : Except LineFault Written := do
    let n ← exactOf v
    let digits := Nat.toDigits base n.natAbs
    let upper := s.conversion == 'X'
    let cased (cs : List Char) := if upper then cs.map Char.toUpper else cs
    writeInt s (precision.getD 0) (if s.full then cased mark else []) (.ok (cased digits)) (n < 0)
  match s.conversion with
  | 's' => return cut (← textBody v.display)
  | 'r' => return cut (← textBody v.inspect)
  | 'a' => return cut (escapeAll (← textBody v.inspect))
  | 'c' => return ⟨[], [], ← charOf v, false⟩
  | 'x' => inBase 16 ['0', 'x']
  | 'X' => inBase 16 ['0', 'x']
  | 'o' => inBase 8 ['0', 'o']
  | c =>
    if c == 'd' || c == 'i' || c == 'u' then
      let n ← wholeOf v
      writeInt s (precision.getD 0) [] (textBody (decimal n.natAbs)) (n < 0)
    else if ['e', 'f', 'g'].contains c.toLower then
      let x ← numberOf v
      if padsDigits s x && maxLength ≤ precision.getD 6 then throw .tooLong
      return writeFloat s (precision.getD 6) x
    else throw .malformed

/-- Takes what a slot asks for in front of its argument: the argument of its key, width and precision. -/
def prepare (s : Slot) : Fill (Int × Option Nat) := do
  match s.key with
  | none => pure ()
  | some key =>
    match (← get).table with
    | none => throw .mismatch
    | some entries =>
      match Value.lookup? (.text key) entries with
      | some v => modify fun t => { t with values := [v] }
      | none => throw .missingKey
  let width ← match s.width with
    | some a => widthOf a
    | none => pure 0
  match s.precision with
  | some a => return (width, some (← precisionOf a))
  | none => return (width, none)

def fill : List Piece → Fill (List Char)
  | [] => return []
  | .char c :: rest => return c :: (← fill rest)
  | .slot s :: rest => do
    let (width, precision) ← prepare s
    let text ← place s width (← write s precision (← next))
    return text ++ (← fill rest)
  | .unfinished s :: _ => do
    let _ ← prepare s
    throw .malformed
  | .openKey :: _ => do
    if (← get).table.isNone then throw .mismatch else throw .malformed

end Template

/-- Message of a template and its arguments; without arguments a template stands for itself. One
argument that is a table with entries gives its entries by key. -/
def message (template : String) (arguments : List Value) : Except LineFault String :=
  match arguments with
  | [] => .ok template
  | _ => do
    let table := match arguments with
      | [.dict (e :: es)] => some (e :: es)
      | _ => none
    let cs := template.toList
    let (text, supply) ← (Template.fill (Template.pieces (cs.length + 1) cs)).run ⟨arguments, table⟩
    if table.isNone && !supply.values.isEmpty then throw .mismatch
    else return String.ofList text

end FeatureCert.Log
