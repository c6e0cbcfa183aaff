import FeatureCert.Numeral.Decimal
import FeatureCert.Yaml.Kind

/-!
Written form of YAML tables. A text stands plain where it reads back as a text, else in single quotes,
and in double quotes where it holds characters that only escapes can show. Long texts go over several
lines, broken at single spaces.
-/
namespace FeatureCert.Yaml.Writer

open FeatureCert.Text FeatureCert.Numeral

inductive Quoting where
  | plain | single | double
  deriving DecidableEq, Repr

/-- Column behind which a line is broken. -/
def bestWidth : Nat := 80

/-- Printable ASCII, or a line feed. -/
def isOrdinary (c : Char) : Bool := c == '\n' || (0x20 ≤ c.toNat && c.toNat ≤ 0x7e)

def isWhite (c : Char) : Bool := c == ' ' || c == '\n'

/-- Whether a text ends, or goes on with white space. -/
def endsOrWhite : List Char → Bool
  | [] => true
  | c :: _ => isWhite c

/-- Characters that mean something else than text where a text begins. -/
def leadingMarks : List Char :=
  ['#', ',', '[', ']', '\x7b', '\x7d', '&', '*', '!', '|', '>', '\'', '"', '%', '@', '\x60']

/-- Whether marks inside a text would end it, or begin a comment. -/
def hasInnerMark (before : Char) : List Char → Bool
  | [] => false
  | c :: rest =>
    (c == ':' && endsOrWhite rest) || (c == '#' && isWhite before) || hasInnerMark c rest

/-- Whether a text has marks by which it would not read back as itself. -/
def hasMark (cs : List Char) : Bool :=
  startsWith ['-', '-', '-'] cs || startsWith ['.', '.', '.'] cs ||
    match cs with
    | [] => false
    | c :: rest =>
      leadingMarks.contains c || ((c == '?' || c == ':' || c == '-') && endsOrWhite rest) ||
        hasInnerMark c rest

/-- Whether `first` is followed by `second` somewhere. -/
def hasPair (first second : Char) (cs : List Char) : Bool := (cs.zip cs.tail).contains (first, second)

/-- Quoting that a text needs. -/
def quoting (text : String) : Quoting :=
  let cs := text.toList
  let outerWhite := (cs.head?.map isWhite).getD false || (cs.getLast?.map isWhite).getD false
  if !cs.all isOrdinary || hasPair ' ' '\n' cs || hasPair '\n' ' ' cs then .double
  else if Kind.ofText text == .text && !outerWhite && !cs.contains '\n' && !hasMark cs then .plain
  else .single

/-- A line end, and spaces up to a column. -/
def newLine (indent : Nat) : List Char := '\n' :: List.replicate indent ' '

/-- Plain text from a column on; `spaces` were read and not written yet. -/
def plainFrom (indent column spaces : Nat) : List Char → List Char
  | [] => List.replicate spaces ' '
  | c :: rest =>
    if c == ' ' then plainFrom indent column (spaces + 1) rest
    else if spaces == 1 && bestWidth < column then
      newLine indent ++ c :: plainFrom indent (indent + 1) 0 rest
    else
      List.replicate spaces ' ' ++ c :: plainFrom indent (column + spaces + 1) 0 rest

/-- Spaces, or line ends in a text in single quotes, where a single line end would read back as a space. -/
def gap (indent spaces breaks : Nat) : List Char :=
  if 0 < breaks then List.replicate breaks '\n' ++ newLine indent else List.replicate spaces ' '

/-- Text in single quotes from a column on; `spaces` and `breaks` were read and not written yet, and
`start` tells that nothing stands before them. -/
def singleFrom (indent column spaces breaks : Nat) (start : Bool) : List Char → List Char
  | [] => gap indent spaces breaks ++ ['\'']
  | c :: rest =>
    if c == ' ' && breaks == 0 then singleFrom indent column (spaces + 1) 0 start rest
    else if c == '\n' && spaces == 0 then singleFrom indent column 0 (breaks + 1) start rest
    else
      let piece := if c == '\'' then ['\'', '\''] else [c]
      if 0 < breaks then
        gap indent 0 breaks ++ piece ++ singleFrom indent (indent + piece.length) 0 0 false rest
      else if spaces == 1 && bestWidth < column && !start then
        newLine indent ++ piece ++ singleFrom indent (indent + piece.length) 0 0 false rest
      else
        gap indent spaces 0 ++ piece ++
          singleFrom indent (column + spaces + piece.length) 0 0 false rest

def shortEscape? (c : Char) : Option Char :=
  match c with
  | '\x00' => some '0'
  | '\x07' => some 'a'
  | '\x08' => some 'b'
  | '\t' => some 't'
  | '\n' => some 'n'
  | '\x0b' => some 'v'
  | '\x0c' => some 'f'
  | '\r' => some 'r'
  | '\x1b' => some 'e'
  | '"' => some '"'
  | '\\' => some '\\'
  | '\u0085' => some 'N'
  | '\u00a0' => some '_'
  | '\u2028' => some 'L'
  | '\u2029' => some 'P'
  | _ => none

/-- Code of a character in capital hexadecimal digits. -/
def hexadecimalCode (width : Nat) (c : Char) : List Char :=
  let digits := (Nat.toDigits 16 c.toNat).map Char.toUpper
  List.replicate (width - digits.length) '0' ++ digits

def escape? (c : Char) : Option (List Char) :=
  match shortEscape? c with
  | some e => some ['\\', e]
  | none =>
    let n := c.toNat
    if 0x20 ≤ n && n ≤ 0x7e then none
    else if n ≤ 0xff then some ('\\' :: 'x' :: hexadecimalCode 2 c)
    else if n ≤ 0xffff then some ('\\' :: 'u' :: hexadecimalCode 4 c)
    else some ('\\' :: 'U' :: hexadecimalCode 8 c)

/-- A line end that reads back as nothing; a space behind it needs a mark of its own. -/
def foldedLine (indent : Nat) (next : Option Char) : List Char :=
  '\\' :: newLine indent ++ (if next == some ' ' then ['\\'] else [])

/-- Text in double quotes from a column on; `pending` was read and not written yet, and `first` tells
that nothing was read. -/
def doubleFrom (indent column : Nat) (pending : List Char) (first : Bool) : List Char → List Char
  | [] => pending ++ ['"']
  | c :: rest =>
    let inside := !first && !rest.isEmpty
    match escape? c with
    | some e =>
      let after := column + pending.length + e.length
      if inside && bestWidth + 1 < after then
        let line := foldedLine indent rest.head?
        pending ++ e ++ line ++
          doubleFrom indent (indent + if rest.head? == some ' ' then 1 else 0) [] false rest
      else pending ++ e ++ doubleFrom indent after [] false rest
    | none =>
      if inside && (c == ' ' || pending.isEmpty) && bestWidth < column + pending.length then
        pending ++ foldedLine indent (some c) ++
          doubleFrom indent (indent + if c == ' ' then 1 else 0) [c] false rest
      else doubleFrom indent column (pending ++ [c]) false rest

/-- A text as a scalar; its further lines begin at `indent`, and its first character, or its quote, stands
at `column`. -/
def scalar (indent column : Nat) (text : String) : List Char :=
  let cs := text.toList
  match quoting text with
  | .plain => plainFrom indent column 0 cs
  | .single => '\'' :: singleFrom indent (column + 1) 0 0 true cs
  | .double => '"' :: doubleFrom indent (column + 1) [] true cs

/-- Values that a written table may hold. -/
inductive Content where
  | text (s : String)
  | switch (b : Bool)
  | number (n : Int)

/-- A key that fits before its colon on one line. -/
def isShort (key : String) : Bool := key.length + 5 < 128

def entry (indent : Nat) (key : String) (content : Content) : Except DigitLimit (List Char) := do
  let keyText := scalar (indent + 2) indent key
  let column := indent + (if isShort key then keyText.length + 2 else 2)
  let value ← match content with
    | .text s => pure (scalar (indent + 2) column s)
    | .switch b => pure (if b then "true" else "false").toList
    | .number n => return margin ++ lead keyText ++ (← decimal n).toList ++ ['\n']
  return margin ++ lead keyText ++ value ++ ['\n']
where
  margin : List Char := List.replicate indent ' '
  lead (keyText : List Char) : List Char :=
    if isShort key then keyText ++ [':', ' ']
    else '?' :: ' ' :: keyText ++ '\n' :: margin ++ [':', ' ']

def entries (indent : Nat) (table : List (String × Content)) : Except DigitLimit (List Char) := do
  return (← table.mapM fun (key, content) => entry indent key content).flatten

def section_ (key : String) (table : List (String × Content)) : Except DigitLimit (List Char) := do
  let keyText := scalar 2 0 key
  if table.isEmpty then return keyText ++ ": \x7b\x7d\n".toList
  else return keyText ++ ":\n".toList ++ (← entries 2 table)

end FeatureCert.Yaml.Writer
