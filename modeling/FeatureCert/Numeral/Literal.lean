import FeatureCert.Numeral.Decimal
import FeatureCert.Text.Classes

/-!
Integer literals: a sign, then digits in the base that the first characters name (hexadecimal, octal,
binary, or else decimal), with single underscores between digits. A decimal literal has no leading
zero unless it is zero, and obeys the digit limit.
-/
namespace FeatureCert.Numeral

open FeatureCert.Text

/-- The ASCII digit of each decimal digit of any script; other characters stay. -/
def foldDigits (cs : List Char) : List Char :=
  cs.map fun c =>
    match digitValue? c with
    | some d => Nat.digitChar d
    | none => c

/-- Value of an ASCII digit or letter below a base. -/
def digitIn? (base : Nat) (c : Char) : Option Nat :=
  let n := c.toNat
  let value? :=
    if 48 ≤ n && n ≤ 57 then some (n - 48)
    else if 97 ≤ n && n ≤ 122 then some (n - 87)
    else if 65 ≤ n && n ≤ 90 then some (n - 55)
    else none
  value?.filter (· < base)

/-- Digits with single underscores between them; `more` tells that a digit came just before. -/
def groupedDigits (base : Nat) (more : Bool) : List Char → Option (List Nat)
  | [] => if more then some [] else none
  | c :: rest =>
    if c == '_' then
      if more then groupedDigits base false rest else none
    else do
      let d ← digitIn? base c
      let ds ← groupedDigits base true rest
      return d :: ds

/-- Number that digits denote, the first being the most significant. -/
def ofDigits (base : Nat) (digits : List Nat) : Nat :=
  digits.foldl (fun n d => n * base + d) 0

/-- Digits after a base mark, which one underscore may follow. -/
def afterMark? (base : Nat) (cs : List Char) : Option Nat :=
  let cs := if cs.head? == some '_' then cs.tail else cs
  (groupedDigits base false cs).map (ofDigits base)

/-- Decimal digits within the limit. -/
def decimalDigits? (cs : List Char) : Option (List Nat) :=
  (groupedDigits 10 false cs).filter (·.length ≤ maxDigits)

/-- An unsigned literal in the base that its first characters name. -/
def natural? (cs : List Char) : Option Nat :=
  match cs with
  | '0' :: 'x' :: rest => afterMark? 16 rest
  | '0' :: 'X' :: rest => afterMark? 16 rest
  | '0' :: 'o' :: rest => afterMark? 8 rest
  | '0' :: 'O' :: rest => afterMark? 8 rest
  | '0' :: 'b' :: rest => afterMark? 2 rest
  | '0' :: 'B' :: rest => afterMark? 2 rest
  | '0' :: _ => do
    let n ← (decimalDigits? cs).map (ofDigits 10)
    if n = 0 then some 0 else none
  | _ => (decimalDigits? cs).map (ofDigits 10)

def splitSign (cs : List Char) : Bool × List Char :=
  match cs with
  | '-' :: rest => (true, rest)
  | '+' :: rest => (false, rest)
  | _ => (false, cs)

def signed (negative : Bool) (n : Nat) : Int := if negative then -(n : Int) else n

/-- An integer literal, with its base marks and digits of any script. -/
def literal? (cs : List Char) : Option Int :=
  let (negative, rest) := splitSign (foldDigits cs)
  (natural? rest).map (signed negative)

/-- Letters that mark a base behind a zero. -/
def baseMarks (base : Nat) : List Char :=
  match base with
  | 2 => ['b', 'B']
  | 8 => ['o', 'O']
  | 16 => ['x', 'X']
  | _ => []

/-- An integer in a given base, with blanks around it and an optional mark of that base. -/
def integerIn? (base : Nat) (cs : List Char) : Option Int := do
  let (negative, rest) := splitSign (foldDigits (trimSpaces cs))
  let digits? (cs : List Char) : Option Nat :=
    if base == 10 then (decimalDigits? cs).map (ofDigits 10)
    else (groupedDigits base false cs).map (ofDigits base)
  let n ← match rest with
    | '0' :: m :: after => if (baseMarks base).contains m then afterMark? base after else digits? rest
    | _ => digits? rest
  return signed negative n

end FeatureCert.Numeral
