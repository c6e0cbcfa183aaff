import FeatureCert.Text.Ranges

/-!
Character classes of the readers: blanks, word characters, decimal digits and visible characters,
each over all of Unicode, and the splitting of a text into lines.
-/
namespace FeatureCert.Text

/-- Blanks: the ASCII controls that separate, and every Unicode space and separator. -/
def isBlank (c : Char) : Bool :=
  let n := c.toNat
  (9 ≤ n && n ≤ 13) || (28 ≤ n && n ≤ 32) || n == 0x85 || n == 0xa0 || n == 0x1680 ||
    (0x2000 ≤ n && n ≤ 0x200a) || n == 0x2028 || n == 0x2029 || n == 0x202f || n == 0x205f ||
    n == 0x3000

/-- Word characters: letters and digits of every script, and the underscore. -/
def isWord (c : Char) : Bool :=
  if c.toNat < 128 then c.isAlphanum || c == '_' else Range.covers letterRanges c.toNat

def digitValue? (c : Char) : Option Nat :=
  let n := c.toNat
  if n < 128 then
    if 48 ≤ n && n ≤ 57 then some (n - 48) else none
  else
    (digitZeros.find? fun z => z ≤ n && n < z + 10).map (n - ·)

/-- Whether a character stands for itself in a quoted text. -/
def isVisible (c : Char) : Bool :=
  let n := c.toNat
  if n < 128 then 32 ≤ n && n < 127 else !Range.covers invisibleRanges n

def trim (cs : List Char) : List Char :=
  ((cs.dropWhile isBlank).reverse.dropWhile isBlank).reverse

/-- Blanks around a number: all but the four controls that separate records. -/
def isSpace (c : Char) : Bool := isBlank c && !(28 ≤ c.toNat && c.toNat ≤ 31)

/-- Drops the blanks around a number. -/
def trimSpaces (cs : List Char) : List Char :=
  ((cs.dropWhile isSpace).reverse.dropWhile isSpace).reverse

/-- ASCII lower case; other characters stay. -/
def lower (cs : List Char) : List Char := cs.map Char.toLower

/-- ASCII upper case of a text, with the characters whose upper case is ASCII letters. -/
def upper (cs : List Char) : List Char :=
  cs.flatMap fun c =>
    match c.toNat with
    | 0xdf => ['S', 'S']
    | 0x131 => ['I']
    | 0x17f => ['S']
    | 0xfb00 => ['F', 'F']
    | 0xfb01 => ['F', 'I']
    | 0xfb02 => ['F', 'L']
    | 0xfb03 => ['F', 'F', 'I']
    | 0xfb04 => ['F', 'F', 'L']
    | 0xfb05 => ['S', 'T']
    | 0xfb06 => ['S', 'T']
    | _ => [c.toUpper]

/-- Characters that end a line, besides the pair of carriage return and line feed. -/
def isLineEnd (c : Char) : Bool :=
  let n := c.toNat
  (10 ≤ n && n ≤ 13) || (28 ≤ n && n ≤ 30) || n == 0x85 || n == 0x2028 || n == 0x2029

/-- Lines of a text without their ends; no empty line follows the last end. -/
def lines (cs : List Char) : List (List Char) :=
  go [] cs
where
  go (line : List Char) : List Char → List (List Char)
    | [] => if line.isEmpty then [] else [line.reverse]
    | '\r' :: '\n' :: rest => line.reverse :: go [] rest
    | c :: rest => if isLineEnd c then line.reverse :: go [] rest else go (c :: line) rest

@[simp] theorem lines_nil : lines [] = [] := rfl

/-- Ends every line with a line feed alone. -/
def foldLineEnds : List Char → List Char
  | [] => []
  | '\r' :: '\n' :: rest => '\n' :: foldLineEnds rest
  | c :: rest => (if c == '\r' then '\n' else c) :: foldLineEnds rest

/-- A text without carriage returns has line feeds for line ends already. -/
theorem foldLineEnds_of_not_mem {cs : List Char} (h : '\r' ∉ cs) : foldLineEnds cs = cs := by
  fun_induction foldLineEnds cs with
  | case1 => rfl
  | case2 => simp at h
  | case3 c rest _ ih =>
    rw [List.mem_cons, not_or] at h
    have hc : (c == '\r') = false := beq_eq_false_iff_ne.2 (Ne.symm h.1)
    rw [hc, ih h.2]
    rfl

def startsWith (part cs : List Char) : Bool := part.isPrefixOf cs

/-- The text before the first `stop`, and the text after it where there is one. -/
def splitFirst (stop : Char) : List Char → List Char × Option (List Char)
  | [] => ([], none)
  | c :: rest =>
    if c == stop then ([], some rest)
    else
      let (before, after) := splitFirst stop rest
      (c :: before, after)

end FeatureCert.Text
