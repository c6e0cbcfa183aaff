import FeatureCert.Numeral.Decimal
import FeatureCert.Text.Point
import FeatureCert.Text.Quoted

/-!
JSON texts: only printable ASCII, every other code point as one or two escapes of a UTF-16 unit. A text
is laid out on one line, or over indented lines.
-/
namespace FeatureCert

open FeatureCert.Text FeatureCert.Numeral

inductive Json where
  | null
  | bool (b : Bool)
  | int (n : Int)
  | text (s : Points)
  | list (items : List Json)
  | record (fields : List (Points × Json))
  deriving Inhabited, Repr

namespace Json

def escapeUnit (n : Nat) : List Char := '\\' :: 'u' :: hexPadded 4 n

def escapePoint (p : Point) : List Char :=
  if p.is '"' then ['\\', '"']
  else if p.is '\\' then ['\\', '\\']
  else if p.is '\n' then ['\\', 'n']
  else if p.is '\r' then ['\\', 'r']
  else if p.is '\t' then ['\\', 't']
  else if p.is '\x08' then ['\\', 'b']
  else if p.is '\x0c' then ['\\', 'f']
  else if 32 ≤ p.code && p.code < 127 then [Char.ofNat p.code]
  else if p.code < 0x10000 then escapeUnit p.code
  else
    let n := p.code - 0x10000
    escapeUnit (0xd800 + n / 0x400) ++ escapeUnit (0xdc00 + n % 0x400)

def quote (s : Points) : String :=
  String.ofList ('"' :: s.flatMap escapePoint ++ ['"'])

mutual

/-- Text on one line. -/
def compact : Json → Except DigitLimit String
  | .null => .ok "null"
  | .bool b => .ok (if b then "true" else "false")
  | .int n => decimal n
  | .text s => .ok (quote s)
  | .list items => do
    let parts ← compactItems items
    return "[" ++ ", ".intercalate parts ++ "]"
  | .record fields => do
    let parts ← compactFields fields
    return "\x7b" ++ ", ".intercalate parts ++ "\x7d"

def compactItems : List Json → Except DigitLimit (List String)
  | [] => .ok []
  | item :: rest => do
    let part ← compact item
    let parts ← compactItems rest
    return part :: parts

def compactFields : List (Points × Json) → Except DigitLimit (List String)
  | [] => .ok []
  | (key, item) :: rest => do
    let part ← compact item
    let parts ← compactFields rest
    return (quote key ++ ": " ++ part) :: parts

end

/-- Brackets around parts, each on a line of its own at a depth. -/
def block (opening closing : String) (depth : Nat) (parts : List String) : String :=
  if parts.isEmpty then opening ++ closing
  else
    let blanks (n : Nat) := String.ofList (List.replicate (2 * n) ' ')
    opening ++ "\n" ++ ",\n".intercalate (parts.map (blanks (depth + 1) ++ ·)) ++ "\n" ++
      blanks depth ++ closing

mutual

/-- Text over lines, each level two blanks deeper. -/
def indented (depth : Nat) : Json → Except DigitLimit String
  | .list items => do
    let parts ← indentedItems (depth + 1) items
    return block "[" "]" depth parts
  | .record fields => do
    let parts ← indentedFields (depth + 1) fields
    return block "\x7b" "\x7d" depth parts
  | .null => .ok "null"
  | .bool b => .ok (if b then "true" else "false")
  | .int n => decimal n
  | .text s => .ok (quote s)

def indentedItems (depth : Nat) : List Json → Except DigitLimit (List String)
  | [] => .ok []
  | item :: rest => do
    let part ← indented depth item
    let parts ← indentedItems depth rest
    return part :: parts

def indentedFields (depth : Nat) : List (Points × Json) → Except DigitLimit (List String)
  | [] => .ok []
  | (key, item) :: rest => do
    let part ← indented depth item
    let parts ← indentedFields depth rest
    return (quote key ++ ": " ++ part) :: parts

end

/-- A text, or null for its absence. -/
def ofText? : Option String → Json
  | none => .null
  | some s => .text s

def texts (items : List String) : Json := .list (items.map fun (s : String) => .text s)

end Json
end FeatureCert
