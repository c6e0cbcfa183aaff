import FeatureCert.Text.Half

/-!
Positions in a YAML text: the rest of the text, with the line and column that it begins at. Past the
end stands the character NUL, which no text holds.
-/
namespace FeatureCert.Yaml

/-- Why a text has no value. All but the first two concern a scalar that its tag does not fit. -/
inductive Fault where
  | malformed
  /-- Containers that lie too deep in each other. -/
  | tooDeep
  /-- A number, date or character that does not exist. -/
  | noSuchValue
  /-- A word that stands for no truth value. -/
  | noSuchWord
  /-- A number without any text. -/
  | emptyNumber
  /-- A text that is no moment. -/
  | notMoment
  /-- A table where a text must stand itself. -/
  | notText
  /-- A number over the size of its kind. -/
  | tooLarge
  deriving DecidableEq, Repr

def isBreak (c : Char) : Bool :=
  c == '\n' || c == '\r' || c == '\u0085' || c == '\u2028' || c == '\u2029'

/-- End of a line or of the text. -/
def isLineStop (c : Char) : Bool := c == '\x00' || isBreak c

/-- A space, or the end of a line or of the text. -/
def isSpaceStop (c : Char) : Bool := c == ' ' || isLineStop c

/-- A space or tab, or the end of a line or of the text. -/
def isGap (c : Char) : Bool := c == '\t' || isSpaceStop c

/-- Whether a text holds only characters that YAML allows. -/
def isAllowed (c : Char) : Bool :=
  let n := c.toNat
  n == 9 || n == 10 || n == 13 || (0x20 ≤ n && n ≤ 0x7e) || n == 0x85 ||
    (0xa0 ≤ n && n ≤ 0xd7ff) || (0xe000 ≤ n && n ≤ 0xfffd) || (0x10000 ≤ n && !Text.isHalf c)

structure Cursor where
  rest : List Char
  index : Nat := 0
  line : Nat := 0
  column : Nat := 0

namespace Cursor

/-- The character `ahead` places on. -/
def peek (c : Cursor) (ahead : Nat := 0) : Char := (c.rest[ahead]?).getD '\x00'

def next (c : Cursor) : Cursor :=
  match c.rest with
  | [] => c
  | ch :: rest =>
    let isEnd := if ch == '\r' then rest.head? != some '\n' else isBreak ch
    if isEnd then ⟨rest, c.index + 1, c.line + 1, 0⟩
    else if ch == '\uFEFF' then ⟨rest, c.index + 1, c.line, c.column⟩
    else ⟨rest, c.index + 1, c.line, c.column + 1⟩

def skip (c : Cursor) : Nat → Cursor
  | 0 => c
  | n + 1 => skip c.next n

/-- Characters up to the first that fails a test, and the cursor behind them. -/
def span (c : Cursor) (p : Char → Bool) : List Char × Cursor :=
  let taken := c.rest.takeWhile p
  (taken, c.skip taken.length)

def skipWhile (c : Cursor) (p : Char → Bool) : Cursor := (c.span p).2

def skipSpaces (c : Cursor) : Cursor := c.skipWhile (· == ' ')

def skipLine (c : Cursor) : Cursor := c.skipWhile (!isLineStop ·)

/-- Takes one line end, if there is one: what it stands for in a text. -/
def lineBreak (c : Cursor) : List Char × Cursor :=
  let ch := c.peek
  if ch == '\r' && c.peek 1 == '\n' then (['\n'], c.skip 2)
  else if ch == '\r' || ch == '\n' || ch == '\u0085' then (['\n'], c.next)
  else if ch == '\u2028' || ch == '\u2029' then ([ch], c.next)
  else ([], c)

/-- Whether the next three characters are `mark` thrice, and then a gap. -/
def atTriple (c : Cursor) (mark : Char) : Bool :=
  c.peek == mark && c.peek 1 == mark && c.peek 2 == mark && isGap (c.peek 3)

/-- Whether a mark between documents stands here. -/
def atDocumentMark (c : Cursor) : Bool := c.atTriple '-' || c.atTriple '.'

end Cursor

def expect (condition : Bool) : Except Fault Unit :=
  if condition then .ok () else .error .malformed

end FeatureCert.Yaml
