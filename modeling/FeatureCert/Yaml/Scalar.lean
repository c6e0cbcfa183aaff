import FeatureCert.Numeral.Literal
import FeatureCert.Yaml.Cursor

/-!
Scalars of a YAML text: quoted, plain and block ones. Each reader takes the cursor at the scalar's start
and gives its text with the cursor behind it; line ends inside fold into spaces as the style asks.
-/
namespace FeatureCert.Yaml.Scalar

open FeatureCert.Numeral

/-- Number of characters left, which bounds every loop here. -/
def budget (c : Cursor) : Nat := c.rest.length + 2

def shortEscape? (c : Char) : Option Char :=
  match c with
  | '0' => some '\x00'
  | 'a' => some '\x07'
  | 'b' => some '\x08'
  | 't' => some '\t'
  | '\t' => some '\t'
  | 'n' => some '\n'
  | 'v' => some '\x0b'
  | 'f' => some '\x0c'
  | 'r' => some '\r'
  | 'e' => some '\x1b'
  | ' ' => some ' '
  | '"' => some '"'
  | '\\' => some '\\'
  | '/' => some '/'
  | 'N' => some '\u0085'
  | '_' => some '\u00a0'
  | 'L' => some '\u2028'
  | 'P' => some '\u2029'
  | _ => none

/-- Number of hexadecimal digits of a long escape. -/
def longEscape? (c : Char) : Option Nat :=
  match c with
  | 'x' => some 2
  | 'u' => some 4
  | 'U' => some 8
  | _ => none

def charOfCode (n : Nat) : Except Fault Char :=
  if n < 0x110000 then .ok (Text.ofCode n)
  else if n < 0x80000000 then .error .noSuchValue
  else .error .tooLarge

def quotedBreaks : Nat → Cursor → Except Fault (List Char × Cursor)
  | 0, _ => .error .malformed
  | fuel + 1, c => do
    expect (!c.atDocumentMark)
    let c := c.skipWhile fun ch => ch == ' ' || ch == '\t'
    if isBreak c.peek then
      let (br, c) := c.lineBreak
      let (more, c) ← quotedBreaks fuel c
      return (br ++ more, c)
    else return ([], c)

/-- A line end with the blank lines after it: one line end alone becomes a space. -/
def foldBreak (br breaks : List Char) : List Char :=
  if br != ['\n'] then br ++ breaks
  else if breaks.isEmpty then [' ']
  else breaks

def quotedSpaces (c : Cursor) : Except Fault (List Char × Cursor) := do
  let (blanks, c) := c.span fun ch => ch == ' ' || ch == '\t'
  if c.peek == '\x00' then throw .malformed
  else if isBreak c.peek then
    let (br, c) := c.lineBreak
    let (breaks, c) ← quotedBreaks (budget c) c
    return (foldBreak br breaks, c)
  else return (blanks, c)

/-- An escape of a double-quoted scalar, behind its backslash. -/
def escape (c : Cursor) : Except Fault (List Char × Cursor) := do
  let ch := c.peek
  match shortEscape? ch, longEscape? ch with
  | some r, _ => return ([r], c.next)
  | none, some width =>
    let digits := c.next.rest.take width
    expect (digits.length == width && digits.all fun d => (digitIn? 16 d).isSome)
    let r ← charOfCode (ofDigits 16 (digits.filterMap (digitIn? 16)))
    return ([r], c.next.skip width)
  | none, none =>
    if isBreak ch then
      let (_, c) := c.lineBreak
      quotedBreaks (budget c) c
    else throw .malformed

/-- Characters of a quoted scalar up to a blank or its end. -/
def quotedText (double : Bool) : Nat → Cursor → Except Fault (List Char × Cursor)
  | 0, _ => .error .malformed
  | fuel + 1, c => do
    let (plain, c) := c.span fun ch => ch != '\'' && ch != '"' && ch != '\\' && !isGap ch
    let ch := c.peek
    let piece? ←
      if !double && ch == '\'' && c.peek 1 == '\'' then pure (some (['\''], c.skip 2))
      else if (double && ch == '\'') || (!double && (ch == '"' || ch == '\\')) then
        pure (some ([ch], c.next))
      else if double && ch == '\\' then do pure (some (← escape c.next))
      else pure none
    match piece? with
    | none => return (plain, c)
    | some (piece, c) =>
      let (more, c) ← quotedText double fuel c
      return (plain ++ piece ++ more, c)

/-- Rest of a quoted scalar up to its closing quote. -/
def quotedRest (double : Bool) : Nat → Cursor → Except Fault (List Char × Cursor)
  | 0, _ => .error .malformed
  | fuel + 1, c => do
    if c.peek == (if double then '"' else '\'') then return ([], c.next)
    else
      let (blanks, c) ← quotedSpaces c
      let (text, c) ← quotedText double (budget c) c
      let (more, c) ← quotedRest double fuel c
      return (blanks ++ text ++ more, c)

def quoted (c : Cursor) : Except Fault (List Char × Cursor) := do
  let double := c.peek == '"'
  let (text, c) ← quotedText double (budget c) c.next
  let (more, c) ← quotedRest double (budget c) c
  return (text ++ more, c)

/-- Whether a plain scalar ends at a character, `after` being the one behind it. -/
def stopsPlain (inFlow : Bool) (ch after : Char) : Bool :=
  let isFlowMark (x : Char) := x == ',' || x == '[' || x == ']' || x == '\x7b' || x == '\x7d'
  isGap ch || (ch == ':' && (isGap after || (inFlow && isFlowMark after))) ||
    (inFlow && (isFlowMark ch || ch == '?'))

/-- Number of characters of a plain scalar's next word. -/
def plainLength (inFlow : Bool) : List Char → Nat
  | [] => 0
  | ch :: rest =>
    if stopsPlain inFlow ch (rest.head?.getD '\x00') then 0 else plainLength inFlow rest + 1

/-- Blank lines inside a plain scalar; none where a mark between documents stands. -/
def plainBreaks : Nat → Cursor → Option (List Char) × Cursor
  | 0, c => (none, c)
  | fuel + 1, c =>
    if c.peek == ' ' then plainBreaks fuel c.next
    else if isBreak c.peek then
      let (br, c) := c.lineBreak
      if c.atDocumentMark then (none, c)
      else
        let (more, c) := plainBreaks fuel c
        (more.map (br ++ ·), c)
    else (some [], c)

/-- Blanks behind a word of a plain scalar, the cursor behind them, and whether a line ended. -/
def plainSpaces (c : Cursor) : List Char × Cursor × Bool :=
  let (blanks, c) := c.span (· == ' ')
  if isBreak c.peek then
    let (br, c) := c.lineBreak
    if c.atDocumentMark then ([], c, true)
    else
      match plainBreaks (budget c) c with
      | (none, c) => ([], c, true)
      | (some breaks, c) => (foldBreak br breaks, c, true)
  else (blanks, c, false)

/-- Words of a plain scalar from a cursor on, `blanks` standing before the first; the flag tells that
a line ended behind the last word. -/
def plainWords (inFlow : Bool) (indent : Nat) :
    Nat → List Char → Bool → Cursor → List Char × Cursor × Bool
  | 0, _, ended, c => ([], c, ended)
  | fuel + 1, blanks, ended, c =>
    let length := if c.peek == '#' then 0 else plainLength inFlow c.rest
    if length == 0 then ([], c, ended)
    else
      let word := c.rest.take length
      let (spaces, c, ended) := plainSpaces (c.skip length)
      if spaces.isEmpty || c.peek == '#' || (!inFlow && c.column < indent) then
        (blanks ++ word, c, ended)
      else
        let (more, c, ended) := plainWords inFlow indent fuel spaces ended c
        (blanks ++ word ++ more, c, ended)

/-- A plain scalar whose lines stand at `indent` or deeper; the flag tells that a line ended. -/
def plain (inFlow : Bool) (indent : Nat) (c : Cursor) : List Char × Cursor × Bool :=
  plainWords inFlow indent (budget c) [] false c

/-- How the line ends at the end of a block scalar are kept. -/
inductive Chomping where
  | clip | strip | keep
  deriving DecidableEq, Repr

def chomping? (c : Char) : Option Chomping :=
  match c with
  | '+' => some .keep
  | '-' => some .strip
  | _ => none

/-- An indentation mark: a digit that is not zero. -/
def increment? (c : Cursor) : Except Fault (Option Nat × Cursor) :=
  if c.peek.isDigit then
    let n := c.peek.toNat - 48
    if n == 0 then .error .malformed else .ok (some n, c.next)
  else .ok (none, c)

/-- Marks behind the sign of a block scalar, in either order. -/
def blockMarks (c : Cursor) : Except Fault (Chomping × Option Nat × Cursor) := do
  let (chomping, increment, c) ← match chomping? c.peek with
    | some m => do
      let (n, c) ← increment? c.next
      pure (m, n, c)
    | none => do
      let (n, c) ← increment? c
      match n, chomping? c.peek with
      | some _, some m => pure (m, n, c.next)
      | _, _ => pure (Chomping.clip, n, c)
  expect (isSpaceStop c.peek)
  return (chomping, increment, c)

/-- Rest of a line that holds nothing but a comment. -/
def ignoredLine (c : Cursor) : Except Fault Cursor := do
  let c := c.skipSpaces
  let c := if c.peek == '#' then c.skipLine else c
  expect (isLineStop c.peek)
  return c.lineBreak.2

/-- Blank lines at the start of a block scalar, and the deepest column in them. -/
def blockStart : Nat → Nat → Cursor → List Char × Nat × Cursor
  | 0, deepest, c => ([], deepest, c)
  | fuel + 1, deepest, c =>
    if c.peek == ' ' then blockStart fuel (max deepest c.next.column) c.next
    else if isBreak c.peek then
      let (br, c) := c.lineBreak
      let (more, deepest, c) := blockStart fuel deepest c
      (br ++ more, deepest, c)
    else ([], deepest, c)

def indentTo (indent : Nat) (c : Cursor) : Cursor :=
  c.skip ((c.rest.take (indent - c.column)).takeWhile (· == ' ')).length

def blockBreaks (indent : Nat) : Nat → Cursor → List Char × Cursor
  | 0, c => ([], c)
  | fuel + 1, c =>
    let c := indentTo indent c
    if isBreak c.peek then
      let (br, c) := c.lineBreak
      let (more, c) := blockBreaks indent fuel c
      (br ++ more, c)
    else ([], c)

/-- Lines of a block scalar; the last two parts are its last line end and the blank lines behind. -/
def blockLines (folded : Bool) (indent : Nat) :
    Nat → List Char → Cursor → List Char × List Char × List Char × Cursor
  | 0, breaks, c => ([], [], breaks, c)
  | fuel + 1, breaks, c =>
    if c.column == indent && c.peek != '\x00' then
      let flush := c.peek != ' ' && c.peek != '\t'
      let (text, c) := c.span (!isLineStop ·)
      let (br, c) := c.lineBreak
      let (after, c) := blockBreaks indent (budget c) c
      if c.column == indent && c.peek != '\x00' then
        let joint :=
          if folded && br == ['\n'] && flush && c.peek != ' ' && c.peek != '\t' then
            if after.isEmpty then [' '] else []
          else br
        let (more, last, tail, c) := blockLines folded indent fuel after c
        (breaks ++ text ++ joint ++ more, last, tail, c)
      else (breaks ++ text, br, after, c)
    else ([], [], breaks, c)

/-- A block scalar under a parent at column `parent`. -/
def block (parent : Int) (c : Cursor) : Except Fault (List Char × Cursor) := do
  let folded := c.peek == '>'
  let (chomping, increment, c) ← blockMarks c.next
  let c ← ignoredLine c
  let least := (max (parent + 1) 1).toNat
  let (indent, breaks, c) :=
    match increment with
    | none =>
      let (breaks, deepest, c) := blockStart (budget c) 0 c
      (max least deepest, breaks, c)
    | some n =>
      let indent := least + n - 1
      let (breaks, c) := blockBreaks indent (budget c) c
      (indent, breaks, c)
  let (text, last, tail, c) := blockLines folded indent (budget c) breaks c
  let ending := match chomping with
    | .strip => []
    | .clip => last
    | .keep => last ++ tail
  return (text ++ ending, c)

end FeatureCert.Yaml.Scalar
