import FeatureCert.Binary64.Basic
import FeatureCert.Numeral.Literal

/-!
Decimal text of binary numbers. Writing takes the fewest digits that read back to the number, and of
those the nearest; positional notation holds from `1e-4` up to below `1e16`.
-/
namespace FeatureCert.Binary64

open FeatureCert.Text FeatureCert.Numeral

/-- Greatest `k` with `10 ^ k ≤ num / den`, for positive arguments of the format's size. -/
def log10Ratio (num den : Nat) : Int :=
  let t := log2Ratio num den * 30103 / 100000
  let atLeast (k : Int) : Bool :=
    let (n, d) := timesPower 10 num den (-k)
    d ≤ n
  if !atLeast t then t - 1 else if atLeast (t + 1) then t + 1 else t

/-- Ends of the interval of reals that round to `m * 2 ^ e`, over one denominator, and whether the
ends belong to it. -/
def interval (m : Nat) (e : Int) : Nat × Nat × Nat × Bool :=
  let low := if m = 0x10000000000000 && minExponent < e then 4 * m - 1 else 4 * m - 2
  let high := 4 * m + 2
  let (scale, den) := timesPower 2 1 1 (e - 2)
  (low * scale, high * scale, den, m % 2 = 0)

/-- Whether `d * 10 ^ k` rounds to `m * 2 ^ e`. -/
def readsBack (m : Nat) (e : Int) (d : Nat) (k : Int) : Bool :=
  let (low, high, den, closed) := interval m e
  let (n, scale) := timesPower 10 (d * den) 1 k
  if closed then low * scale ≤ n && n ≤ high * scale else low * scale < n && n < high * scale

/-- Digits and exponent of the decimal of at most `count` digits next to `m * 2 ^ e` that reads back. -/
def digitsOf? (m : Nat) (e : Int) (count : Nat) : Option (Nat × Int) :=
  let (num, den) := timesPower 2 m 1 e
  let k := log10Ratio num den + 1 - count
  let (n, d) := timesPower 10 num den (-k)
  let below := n / d
  let nearest := roundDiv n d
  if readsBack m e nearest k then some (nearest, k)
  else if readsBack m e below k then some (below, k)
  else if readsBack m e (below + 1) k then some (below + 1, k)
  else none

/-- The shortest decimal of a positive finite number. -/
def shortest (m : Nat) (e : Int) : Nat × Int :=
  ((List.range 18).findSome? fun count => if count = 0 then none else digitsOf? m e count).getD (m, 0)

/-- Text of a decimal: positional for a leading exponent from -4 to 15, scientific else. -/
def layout (digits : List Char) (point : Int) : List Char :=
  let size : Int := digits.length
  if -4 < point && point ≤ 16 then
    if point ≤ 0 then ['0', '.'] ++ List.replicate point.natAbs '0' ++ digits
    else if size ≤ point then digits ++ List.replicate (point - size).natAbs '0' ++ ['.', '0']
    else digits.take point.natAbs ++ '.' :: digits.drop point.natAbs
  else
    let e := point - 1
    let mantissa := match digits with
      | [d] => [d]
      | d :: rest => d :: '.' :: rest
      | [] => []
    mantissa ++ 'e' :: (if e < 0 then '-' else '+') :: (padded 2 e.natAbs).toList

def stripZeros (digits : List Char) : List Char :=
  (digits.reverse.dropWhile (· == '0')).reverse

def text : Binary64 → String
  | .nan => "nan"
  | .infinite negative => if negative then "-inf" else "inf"
  | .finite negative m e =>
    let body :=
      if m = 0 then ['0', '.', '0']
      else
        let (n, k) := shortest m e
        let digits := Nat.toDigits 10 n
        layout (stripZeros digits) (k + digits.length)
    String.ofList (if negative then '-' :: body else body)

/-- Digits with single underscores between them at the start of a text, and the rest. -/
def takeDigits (cs : List Char) : List Char × List Char :=
  go false cs
where
  go (more : Bool) : List Char → List Char × List Char
    | [] => ([], [])
    | '_' :: d :: rest =>
      if more && d.isDigit then
        let (ds, after) := go true rest
        (d :: ds, after)
      else ([], '_' :: d :: rest)
    | c :: rest =>
      if c.isDigit then
        let (ds, after) := go true rest
        (c :: ds, after)
      else ([], c :: rest)

/-- Reads an unsigned decimal number with an optional fraction and exponent. -/
def unsigned? (negative : Bool) (cs : List Char) : Option Binary64 := do
  let (whole, rest) := takeDigits cs
  let (fraction, rest) := match rest with
    | '.' :: after => takeDigits after
    | _ => ([], rest)
  if whole.isEmpty && fraction.isEmpty then none
  else
    let exponent ← match rest with
      | [] => some 0
      | c :: after =>
        if c == 'e' || c == 'E' then
          let (minus, digits) := splitSign after
          let (ds, tail) := takeDigits digits
          if ds.isEmpty || !tail.isEmpty then none
          else some (signed minus (ofDigits 10 (ds.filterMap (digitIn? 10))))
        else none
    let digits := ofDigits 10 ((whole ++ fraction).filterMap (digitIn? 10))
    return ofDecimal negative digits (exponent - fraction.length)

/-- Reads a number: decimal text, or a word for infinity or nan, with blanks around it. -/
def ofText? (cs : List Char) : Option Binary64 :=
  let (negative, rest) := splitSign (foldDigits (trimSpaces cs))
  let word := String.ofList (lower rest)
  if word == "inf" || word == "infinity" then some (.infinite negative)
  else if word == "nan" then some .nan
  else unsigned? negative rest

end FeatureCert.Binary64
