import FeatureCert.Yaml.Scalar

/-!
Tokens of a YAML text. Indentation becomes block tokens, and a key that is only known by the colon behind
it gets its key token at the place where it began.
-/
namespace FeatureCert.Yaml

/-- A tag as it is written: a handle, unless it is a whole tag, and the rest. -/
structure TagMark where
  handle : Option String
  suffix : String
  deriving DecidableEq, Repr

inductive Directive where
  | version (major : Nat)
  | handle (name target : String)
  | unknown
  deriving DecidableEq, Repr

inductive Token where
  | directive (d : Directive)
  | documentStart | documentEnd
  | blockSequence | blockMapping | blockEnd
  | openList | closeList | openTable | closeTable
  | entry | comma | key | colon
  | alias (name : String)
  | anchor (name : String)
  | tag (mark : TagMark)
  | scalar (text : String) (plain : Bool)
  deriving DecidableEq, Repr

namespace Lexer

open FeatureCert.Numeral

/-- A place where a key may have begun; a required one must turn out to be a key. -/
structure PendingKey where
  level : Nat
  position : Nat
  required : Bool
  index : Nat
  line : Nat
  column : Nat

structure State where
  cursor : Cursor
  /-- Tokens so far, the last one first. -/
  tokens : List Token := []
  /-- Number of tokens so far. -/
  count : Nat := 0
  /-- Tokens to put in front of the token at a position. -/
  inserts : List (Nat × List Token) := []
  /-- Depth of brackets. -/
  level : Nat := 0
  indent : Int := -1
  indents : List Int := []
  keyAllowed : Bool := true
  pending : List PendingKey := []

abbrev Step := Except Fault State

namespace State

def push (s : State) (t : Token) : State :=
  { s with tokens := t :: s.tokens, count := s.count + 1 }

def insertAt (s : State) (position : Nat) (tokens : List Token) : State :=
  { s with inserts := (position, tokens) :: s.inserts }

/-- Closes the blocks that are deeper than a column. -/
def unwind (column : Int) (s : State) : State :=
  if s.level != 0 then s else go s.indents.length s
where
  go : Nat → State → State
    | 0, s => if column < s.indent then { s.push .blockEnd with indent := -1 } else s
    | fuel + 1, s =>
      if column < s.indent then
        match s.indents with
        | outer :: rest =>
          go fuel { s.push .blockEnd with indent := outer, indents := rest }
        | [] => { s.push .blockEnd with indent := -1 }
      else s

/-- Opens a block at a column that is deeper than the present one. -/
def deepen (column : Nat) (s : State) : Option State :=
  if s.indent < column then
    some { s with indent := column, indents := s.indent :: s.indents }
  else none

/-- Gives up the pending key of the present depth. -/
def dropPending (s : State) : Step :=
  match s.pending.find? (·.level == s.level) with
  | some k =>
    if k.required then .error .malformed
    else .ok { s with pending := s.pending.filter (·.level != s.level) }
  | none => .ok s

/-- Whether a key is too far back to be one. -/
def isStale (s : State) (k : PendingKey) : Bool :=
  k.line != s.cursor.line || 1024 < s.cursor.index - k.index

/-- Gives up pending keys that are too far back. -/
def dropStale (s : State) : Step :=
  if s.pending.any fun k => s.isStale k && k.required then .error .malformed
  else .ok { s with pending := s.pending.filter (!s.isStale ·) }

/-- Notes that a key may begin here. -/
def notePending (s : State) : Step :=
  if s.keyAllowed then do
    let required := s.level == 0 && s.indent == s.cursor.column
    let s ← s.dropPending
    let c := s.cursor
    let k : PendingKey := ⟨s.level, s.count, required, c.index, c.line, c.column⟩
    return { s with pending := k :: s.pending }
  else .ok s

def allowKey (allowed : Bool) (s : State) : State := { s with keyAllowed := allowed }

/-- A token of fixed length here. -/
def mark (t : Token) (length : Nat) (s : State) : State :=
  { s.push t with cursor := s.cursor.skip length }

end State

/-- Moves to the next token, over spaces, comments and line ends. -/
def skipBlank : Nat → State → State
  | 0, s => s
  | fuel + 1, s =>
    let c := s.cursor.skipSpaces
    let c := if c.peek == '#' then c.skipLine else c
    if isBreak c.peek then
      skipBlank fuel { s with
        cursor := c.lineBreak.2
        keyAllowed := s.keyAllowed || s.level == 0 }
    else { s with cursor := c }

def isNameChar (c : Char) : Bool := c.isAlphanum || c == '-' || c == '_'

def versionNumber (c : Cursor) : Except Fault (Nat × Cursor) := do
  let (digits, c) := c.span Char.isDigit
  expect (!digits.isEmpty)
  if maxDigits < digits.length then throw .noSuchValue
  return (ofDigits 10 (digits.filterMap (digitIn? 10)), c)

def isUriChar (c : Char) : Bool :=
  c.isAlphanum || "-;/?:@&=+$,_.!~*'()[]%".toList.contains c

/-- Octets of a run of percent escapes. -/
def percentOctets : Nat → Cursor → Except Fault (List UInt8 × Cursor)
  | 0, c => .ok ([], c)
  | fuel + 1, c =>
    if c.peek == '%' then
      match digitIn? 16 (c.peek 1), digitIn? 16 (c.peek 2) with
      | some a, some b => do
        let (more, c) ← percentOctets fuel (c.skip 3)
        return (UInt8.ofNat (a * 16 + b) :: more, c)
      | _, _ => .error .malformed
    else .ok ([], c)

/-- Characters of a tag, percent escapes read as UTF-8. -/
def uriText : Nat → Cursor → Except Fault (List Char × Cursor)
  | 0, c => .ok ([], c)
  | fuel + 1, c => do
    let (plain, c) := c.span fun ch => isUriChar ch && ch != '%'
    if c.peek == '%' then
      let (octets, c) ← percentOctets (c.rest.length + 1) c
      match String.fromUTF8? ⟨octets.toArray⟩ with
      | none => throw .malformed
      | some text =>
        let (more, c) ← uriText fuel c
        return (plain ++ text.toList ++ more, c)
    else return (plain, c)

/-- A tag's characters; there is at least one. -/
def uri (c : Cursor) : Except Fault (String × Cursor) := do
  expect (isUriChar c.peek)
  let (text, c) ← uriText (c.rest.length + 1) c
  return (String.ofList text, c)

/-- A handle: an exclamation mark, or a name between two. -/
def handle (c : Cursor) : Except Fault (String × Cursor) := do
  expect (c.peek == '!')
  if c.peek 1 == ' ' then return ("!", c.next)
  else
    let (name, after) := c.next.span isNameChar
    expect (after.peek == '!')
    return (String.ofList ('!' :: name ++ ['!']), after.next)

def directive (c : Cursor) : Except Fault (Directive × Cursor) := do
  let (name, c) := c.span isNameChar
  expect (!name.isEmpty && isSpaceStop c.peek)
  let (d, c) ← match String.ofList name with
    | "YAML" => do
      let (major, c) ← versionNumber c.skipSpaces
      expect (c.peek == '.')
      let (_, c) ← versionNumber c.next
      expect (isSpaceStop c.peek)
      pure (Directive.version major, c)
    | "TAG" => do
      let (name, c) ← handle c.skipSpaces
      expect (c.peek == ' ')
      let (target, c) ← uri c.skipSpaces
      expect (isSpaceStop c.peek)
      pure (Directive.handle name target, c)
    | _ => pure (Directive.unknown, c.skipLine)
  return (d, ← Scalar.ignoredLine c)

def anchorName (c : Cursor) : Except Fault (String × Cursor) := do
  let (name, c) := c.span isNameChar
  expect (!name.isEmpty && (isGap c.peek || "?:,]\x7d%@\x60".toList.contains c.peek))
  return (String.ofList name, c)

def tagMark (c : Cursor) : Except Fault (TagMark × Cursor) := do
  let (mark, c) ←
    if c.peek 1 == '<' then do
      let (suffix, c) ← uri (c.skip 2)
      expect (c.peek == '>')
      pure (TagMark.mk none suffix, c.next)
    else if isGap (c.peek 1) then pure (TagMark.mk none "!", c.next)
    else do
      let word := c.next.rest.takeWhile (!isSpaceStop ·)
      let (name, c) ← if word.contains '!' then handle c else pure ("!", c.next)
      let (suffix, c) ← uri c
      pure (TagMark.mk (some name) suffix, c)
  expect (isSpaceStop c.peek)
  return (mark, c)

def startsPlain (c : Cursor) (inFlow : Bool) : Bool :=
  let ch := c.peek
  (!isGap ch && !"-?:,[]\x7b\x7d#&*!|>'\"%@\x60".toList.contains ch) ||
    (!isGap (c.peek 1) && (ch == '-' || (!inFlow && (ch == '?' || ch == ':'))))

def opening (t : Token) (s : State) : Step := do
  let s ← s.notePending
  return { s.mark t 1 with level := s.level + 1, keyAllowed := true }

def closing (t : Token) (s : State) : Step := do
  let s ← s.dropPending
  expect (s.level != 0)
  return { s.mark t 1 with level := s.level - 1, keyAllowed := false }

def dash (s : State) : Step := do
  let s ←
    if s.level == 0 then do
      expect s.keyAllowed
      pure (((s.deepen s.cursor.column).map (·.push .blockSequence)).getD s)
    else pure s
  let s ← (s.allowKey true).dropPending
  return s.mark .entry 1

def question (s : State) : Step := do
  let s ←
    if s.level == 0 then do
      expect s.keyAllowed
      pure (((s.deepen s.cursor.column).map (·.push .blockMapping)).getD s)
    else pure s
  let s ← (s.allowKey (s.level == 0)).dropPending
  return s.mark .key 1

/-- The colon of a value; a pending key now is one. -/
def colon (s : State) : Step := do
  match s.pending.find? (·.level == s.level) with
  | some k =>
    let s := { s with pending := s.pending.filter (·.level != s.level) }
    let deeper? := if s.level == 0 then s.deepen k.column else none
    let s := match deeper? with
      | some s => s.insertAt k.position [.blockMapping, .key]
      | none => s.insertAt k.position [.key]
    return (s.allowKey false).mark .colon 1
  | none =>
    let s ←
      if s.level == 0 then do
        expect s.keyAllowed
        pure (((s.deepen s.cursor.column).map (·.push .blockMapping)).getD s)
      else pure s
    let s ← (s.allowKey (s.level == 0)).dropPending
    return s.mark .colon 1

/-- A mark between documents, or a directive. -/
def outermost (s : State) : Step := do
  let s ← (s.unwind (-1)).dropPending
  return s.allowKey false

/-- A token that may be a key or begin one. -/
def keyLike (s : State) (read : Cursor → Except Fault (Token × Cursor)) : Step := do
  let s ← s.notePending
  let (t, c) ← read s.cursor
  return { (s.allowKey false).push t with cursor := c }

/-- Reads the token at the cursor, which is not at the end. -/
def token (s : State) : Step := do
  let c := s.cursor
  let ch := c.peek
  let inFlow := s.level != 0
  if ch == '%' && c.column == 0 then
    let s ← outermost s
    let (d, c) ← directive s.cursor.next
    return { s.push (.directive d) with cursor := c }
  else if c.column == 0 && c.atTriple '-' then return (← outermost s).mark .documentStart 3
  else if c.column == 0 && c.atTriple '.' then return (← outermost s).mark .documentEnd 3
  else if ch == '[' then opening .openList s
  else if ch == '\x7b' then opening .openTable s
  else if ch == ']' then closing .closeList s
  else if ch == '\x7d' then closing .closeTable s
  else if ch == ',' then return (← (s.allowKey true).dropPending).mark .comma 1
  else if ch == '-' && isGap (c.peek 1) then dash s
  else if ch == '?' && (inFlow || isGap (c.peek 1)) then question s
  else if ch == ':' && (inFlow || isGap (c.peek 1)) then colon s
  else if ch == '*' then
    keyLike s fun c => do
      let (name, c) ← anchorName c.next
      return (.alias name, c)
  else if ch == '&' then
    keyLike s fun c => do
      let (name, c) ← anchorName c.next
      return (.anchor name, c)
  else if ch == '!' then
    keyLike s fun c => do
      let (mark, c) ← tagMark c
      return (.tag mark, c)
  else if (ch == '|' || ch == '>') && !inFlow then
    let s ← (s.allowKey true).dropPending
    let (text, c) ← Scalar.block s.indent s.cursor
    return { s.push (.scalar (String.ofList text) false) with cursor := c }
  else if ch == '\'' || ch == '"' then
    keyLike s fun c => do
      let (text, c) ← Scalar.quoted c
      return (.scalar (String.ofList text) false, c)
  else if startsPlain c inFlow then
    let s ← s.notePending
    let (text, c, ended) := Scalar.plain inFlow (s.indent + 1).toNat s.cursor
    return { (s.allowKey ended).push (.scalar (String.ofList text) true) with cursor := c }
  else throw .malformed

/-- Reads what comes next, and tells whether it is the end. -/
def next (s : State) : Except Fault (State × Bool) := do
  let s := skipBlank (s.cursor.rest.length + 1) s
  let s ← s.dropStale
  let s := s.unwind s.cursor.column
  if s.cursor.rest.isEmpty then return (← (s.unwind (-1)).dropPending, true)
  else return (← token s, false)

/-- Reads tokens up to the end, or up to the first fault. -/
def tokens : Nat → State → State × Option Fault
  | 0, s => (s, some .malformed)
  | fuel + 1, s =>
    match next s with
    | .error fault => (s, some fault)
    | .ok (s, true) => (s, none)
    | .ok (s, false) => tokens fuel s

/-- Number of tokens whose kind is settled: one that may yet become a key holds up those behind it. -/
def settled (s : State) : Nat :=
  (s.pending.filter (!s.isStale ·)).foldl (fun n k => min n k.position) s.count

/-- Tokens with the inserted ones at their places. -/
def weave (inserts : List (Nat × List Token)) (position : Nat) : List Token → List Token
  | [] => []
  | t :: rest =>
    match inserts with
    | [] => t :: rest
    | (place, extra) :: more =>
      if place == position then extra ++ t :: weave more (position + 1) rest
      else t :: weave inserts (position + 1) rest

end Lexer

/-- Tokens of a text, up to its end or up to a fault behind which nothing is read. -/
structure Tokens where
  settled : List Token
  fault : Option Fault

def Tokens.ofText (text : String) : Except Fault Tokens := do
  let cs := text.toList
  expect (cs.all isAllowed)
  let start : Cursor := ⟨cs, 0, 0, 0⟩
  let start := if start.peek == '\uFEFF' then start.next else start
  let (s, fault) := Lexer.tokens (cs.length + 2) { cursor := start }
  let inserts := s.inserts.mergeSort fun a b => decide (a.1 ≤ b.1)
  let read := s.tokens.reverse
  return ⟨Lexer.weave inserts 0 (if fault.isSome then read.take (Lexer.settled s) else read), fault⟩

end FeatureCert.Yaml
