import FeatureCert.Value.Basic
import FeatureCert.Yaml.Kind

/-!
Values of YAML scalars. A scalar whose tag is written may have any text, so each reader says which fault
a text has that does not fit.
-/
namespace FeatureCert.Yaml.ScalarValue

open FeatureCert.Text FeatureCert.Numeral

def need (x : Option α) (fault : Fault) : Except Fault α :=
  match x with
  | some a => .ok a
  | none => .error fault

/-- Pieces of a text between colons. -/
def pieces (cs : List Char) : List (List Char) :=
  match cs with
  | [] => [[]]
  | c :: rest =>
    match pieces rest with
    | piece :: more => if c == ':' then [] :: piece :: more else (c :: piece) :: more
    | [] => [[c]]

/-- A number's text without underscores, and its sign split off. -/
def signAndRest (cs : List Char) : Except Fault (Bool × List Char) :=
  match cs.filter (· != '_') with
  | [] => .error .emptyNumber
  | c :: rest => .ok (splitSign (c :: rest))

def bool (cs : List Char) : Except Fault Bool :=
  let word := String.ofList (lower cs)
  if word == "yes" || word == "true" || word == "on" then .ok true
  else if word == "no" || word == "false" || word == "off" then .ok false
  else .error .noSuchWord

def inBase (base : Nat) (cs : List Char) : Except Fault Int :=
  need (integerIn? base cs) .noSuchValue

def magnitude (cs : List Char) : Except Fault Int :=
  match cs with
  | [] => .error .emptyNumber
  | '0' :: 'b' :: rest => inBase 2 rest
  | '0' :: 'x' :: rest => inBase 16 rest
  | '0' :: rest => inBase 8 ('0' :: rest)
  | _ =>
    if cs.contains ':' then do
      let digits ← (pieces cs).mapM (inBase 10)
      return digits.foldl (fun n d => n * 60 + d) 0
    else inBase 10 cs

def int (cs : List Char) : Except Fault Int := do
  let (negative, rest) ← signAndRest cs
  let n ← magnitude rest
  return if negative then -n else n

def decimalFloat (cs : List Char) : Except Fault Binary64 :=
  need (Binary64.ofText? cs) .noSuchValue

/-- Sum of digits of base sixty, the least first, each rounded and then added; the weight of every digit
must have a rounded value. -/
def sumSixties (total : Binary64) (base : Nat) : List Binary64 → Except Fault Binary64
  | [] => .ok total
  | d :: rest =>
    match Binary64.ofInt base with
    | .infinite _ => .error .tooLarge
    | weight => sumSixties (total.add (d.mul weight)) (base * 60) rest

/-- Whether a number's text is the word for what is no number; all such words give one and the same value. -/
def isNanWord (text : String) : Bool :=
  match signAndRest (lower text.toList) with
  | .ok (_, rest) => String.ofList rest == ".nan"
  | .error _ => false

def float (cs : List Char) : Except Fault Binary64 := do
  let (negative, rest) ← signAndRest (lower cs)
  let x ←
    if String.ofList rest == ".inf" then pure (Binary64.infinite false)
    else if String.ofList rest == ".nan" then pure Binary64.nan
    else if rest.contains ':' then do
      let digits ← (pieces rest).mapM decimalFloat
      sumSixties (.ofInt 0) 1 digits.reverse
    else decimalFloat rest
  return if negative then x.neg else x

def timestamp (cs : List Char) : Except Fault Value := do
  let t ← need (Timestamp.ofText? (dropLineEnd cs)) .notMoment
  match t.time with
  | none => if t.date.exists? then return .date t.date else throw .noSuchValue
  | some (hour, minute, second) => return .moment (← t.moment hour minute second)

/-- Value of a base-64 digit. -/
def sixBits? (c : Char) : Option Nat :=
  let n := c.toNat
  if 65 ≤ n && n ≤ 90 then some (n - 65)
  else if 97 ≤ n && n ≤ 122 then some (n - 71)
  else if 48 ≤ n && n ≤ 57 then some (n + 4)
  else if c == '+' then some 62
  else if c == '/' then some 63
  else none

/-- Octets of base-64 digits; `seen` digits of the group of four left `bits`, and `pads` marks of padding
follow them. Other characters are passed over, and full padding ends the text. -/
def octets (seen bits pads : Nat) : List Char → Except Fault (List Nat)
  | [] => if seen == 0 then .ok [] else .error .malformed
  | c :: rest =>
    if c == '=' then
      if 2 ≤ seen && 4 ≤ seen + pads + 1 then .ok []
      else octets seen bits (if 2 ≤ seen then pads + 1 else pads) rest
    else
      match sixBits? c with
      | none => octets seen bits pads rest
      | some d =>
        match seen with
        | 0 => octets 1 d 0 rest
        | 1 => (octets 2 (d % 16) 0 rest).map ((bits * 4 + d / 16) :: ·)
        | 2 => (octets 3 (d % 4) 0 rest).map ((bits * 16 + d / 4) :: ·)
        | _ => (octets 0 0 0 rest).map ((bits * 64 + d) :: ·)

def binary (cs : List Char) : Except Fault (List Nat) :=
  if cs.all fun c => c.toNat < 128 then octets 0 0 0 cs else .error .malformed

/-- Value of a scalar of a kind; the other kinds have no scalars. -/
def ofKind (kind : Kind) (text : String) : Except Fault Value :=
  let cs := text.toList
  match kind with
  | .null => .ok .null
  | .bool => (bool cs).map .bool
  | .int => (int cs).map .int
  | .float => (float cs).map .float
  | .timestamp => timestamp cs
  | .binary => (binary cs).map .bytes
  | .text => .ok (.text text)
  | _ => .error .malformed

end FeatureCert.Yaml.ScalarValue
