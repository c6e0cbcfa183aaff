import FeatureCert.Text.Classes
import FeatureCert.Text.Half

/-!
Quoted text: single quotes, or double ones around a text that holds single quotes and no double ones.
The quote and the backslash are escaped, and so is every character that is not visible.
-/
namespace FeatureCert.Text

/-- A number in lower-case hexadecimal digits, with zeros on the left. -/
def hexPadded (width n : Nat) : List Char :=
  let digits := Nat.toDigits 16 n
  List.replicate (width - digits.length) '0' ++ digits

def quoteFor (cs : List Char) : Char :=
  if cs.contains '\'' && !cs.contains '"' then '"' else '\''

/-- Escape of a code in as many hexadecimal digits as its size asks for. -/
def escapeCode (n : Nat) : List Char :=
  if n < 0x100 then '\\' :: 'x' :: hexPadded 2 n
  else if n < 0x10000 then '\\' :: 'u' :: hexPadded 4 n
  else '\\' :: 'U' :: hexPadded 8 n

/-- Written form of one character between quotes. -/
def escape (quote c : Char) : List Char :=
  if c == quote || c == '\\' then ['\\', c]
  else if c == '\n' then ['\\', 'n']
  else if c == '\r' then ['\\', 'r']
  else if c == '\t' then ['\\', 't']
  else if isVisible c then [c]
  else escapeCode (codeOf c)

def quoted (s : String) : String :=
  let cs := s.toList
  let q := quoteFor cs
  String.ofList (q :: cs.flatMap (escape q) ++ [q])

/-- Bytes between quotes after a mark, those outside visible ASCII in hexadecimal. -/
def quotedBytes (bytes : List Nat) : String :=
  let cs := bytes.map Char.ofNat
  let q := quoteFor cs
  let written := cs.flatMap fun c =>
    if 127 ≤ c.toNat then '\\' :: 'x' :: hexPadded 2 c.toNat else escape q c
  String.ofList ('b' :: q :: written ++ [q])

end FeatureCert.Text
