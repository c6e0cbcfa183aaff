import FeatureCert.Json.Basic
import FeatureCert.Numeral.Literal

/-!
The reader of JSON texts, in which no half stands for itself. A text in quotes is read as pieces, since two
escapes of halves that follow each other are one code point; its numbers are integers within the digit limit,
without a fraction or an exponent. A record keeps its fields as they are written.
-/
namespace FeatureCert.Json

open FeatureCert.Text FeatureCert.Numeral

/-- Piece of a text in quotes: a character that stands for itself or has an escape of its own, or the escape
of a UTF-16 unit. -/
inductive Piece where
  | char (c : Char)
  | unit (n : Nat)
  deriving DecidableEq, Repr

/-- Character of an escape of two characters. -/
def escaped? (c : Char) : Option Char :=
  match c with
  | '"' => some '"'
  | '\\' => some '\\'
  | '/' => some '/'
  | 'b' => some '\x08'
  | 'f' => some '\x0c'
  | 'n' => some '\n'
  | 'r' => some '\r'
  | 't' => some '\t'
  | _ => none

/-- Unit of four hexadecimal digits. -/
def unit? (digits : List Char) : Option Nat := (digits.mapM (digitIn? 16)).map (ofDigits 16)

/-- Pieces of a text up to its closing quote, with what follows it; a control must be escaped. -/
def pieces? : List Char → Option (List Piece × List Char)
  | [] => none
  | '"' :: rest => some ([], rest)
  | '\\' :: 'u' :: a :: b :: c :: d :: rest => do
    let n ← unit? [a, b, c, d]
    let (ps, rest) ← pieces? rest
    return (.unit n :: ps, rest)
  | '\\' :: e :: rest => do
    let c ← escaped? e
    let (ps, rest) ← pieces? rest
    return (.char c :: ps, rest)
  | c :: rest => do
    if c == '\\' || c.toNat < 32 then none
    let (ps, rest) ← pieces? rest
    return (.char c :: ps, rest)

/-- Code points of pieces. -/
def join : List Piece → Points
  | [] => []
  | .char c :: rest => .ofChar c :: join rest
  | .unit n :: .unit m :: rest =>
    if isHighCode n && isLowCode m then .ofCode (pairCode n m) :: join rest
    else .ofCode n :: join (.unit m :: rest)
  | .unit n :: rest => .ofCode n :: join rest

def text? (cs : List Char) : Option (Points × List Char) :=
  (pieces? cs).map fun (ps, rest) => (join ps, rest)

/-- Blanks between the parts of a JSON text. -/
def isGap (c : Char) : Bool := c == ' ' || c == '\t' || c == '\n' || c == '\r'

def skip (cs : List Char) : List Char := cs.dropWhile isGap

/-- A number of decimal digits, without a leading zero. -/
def magnitude? (cs : List Char) : Option (Nat × List Char) := do
  let digits := cs.takeWhile Char.isDigit
  if 1 < digits.length && digits.head? == some '0' then none
  let ds ← decimalDigits? digits
  return (ofDigits 10 ds, cs.dropWhile Char.isDigit)

def integer? (cs : List Char) : Option (Int × List Char) :=
  match cs with
  | '-' :: rest => (magnitude? rest).map fun (n, rest) => (-n, rest)
  | _ => (magnitude? cs).map fun (n, rest) => (n, rest)

/-- Parts with commas between them, up to a closing bracket. -/
def parts? (part? : List Char → Option (α × List Char)) (closing : Char) :
    Nat → List Char → Option (List α × List Char)
  | 0, _ => none
  | fuel + 1, cs => do
    let (a, rest) ← part? (skip cs)
    match skip rest with
    | ',' :: rest =>
      let (more, rest) ← parts? part? closing fuel rest
      return (a :: more, rest)
    | c :: rest => if c == closing then some ([a], rest) else none
    | [] => none

def enclosed? (part? : List Char → Option (α × List Char)) (closing : Char) (fuel : Nat)
    (cs : List Char) : Option (List α × List Char) :=
  match skip cs with
  | c :: rest => if c == closing then some ([], rest) else parts? part? closing fuel (c :: rest)
  | [] => none

/-- A key, a colon and what belongs to the key. -/
def field? (part? : List Char → Option (α × List Char)) (cs : List Char) :
    Option ((Points × α) × List Char) :=
  match cs with
  | '"' :: rest => do
    let (key, rest) ← text? rest
    match skip rest with
    | ':' :: rest =>
      let (a, rest) ← part? (skip rest)
      return ((key, a), rest)
    | _ => none
  | _ => none

/-- A value, with what follows it; no value has more levels and parts than it has characters. -/
def value? : Nat → List Char → Option (Json × List Char)
  | 0, _ => none
  | fuel + 1, cs =>
    match cs with
    | 'n' :: 'u' :: 'l' :: 'l' :: rest => some (.null, rest)
    | 't' :: 'r' :: 'u' :: 'e' :: rest => some (.bool true, rest)
    | 'f' :: 'a' :: 'l' :: 's' :: 'e' :: rest => some (.bool false, rest)
    | '"' :: rest => (text? rest).map fun (s, rest) => (.text s, rest)
    | '[' :: rest =>
      (enclosed? (value? fuel) ']' fuel rest).map fun (items, rest) => (.list items, rest)
    | '\x7b' :: rest =>
      (enclosed? (field? (value? fuel)) '\x7d' fuel rest).map fun (fields, rest) => (.record fields, rest)
    | _ => (integer? cs).map fun (n, rest) => (.int n, rest)

def read? (s : String) : Option Json := do
  let cs := skip s.toList
  let (j, rest) ← value? cs.length cs
  if (skip rest).isEmpty then some j else none

end FeatureCert.Json
