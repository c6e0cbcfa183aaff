import FeatureCert.Binary64.Basic

/-!
Text of numbers with a chosen precision: with a fixed number of places, with an exponent, or in the
shorter of both forms. Each digit string is the exact value rounded to the nearest, half to even.
-/
namespace FeatureCert.Binary64

/-- A number's size as an exact quotient. -/
abbrev Size := Nat × Nat

/-- Digits of `k` padded with zeros to a width. -/
def digitsOf (width k : Nat) : List Char :=
  let digits := Nat.toDigits 10 k
  List.replicate (width - digits.length) '0' ++ digits

/-- Digits with a point before the last `places`; `point` keeps the point where no places follow. -/
def withPoint (places : Nat) (point : Bool) (digits : List Char) : List Char :=
  let whole := digits.take (digits.length - places)
  if places = 0 then whole ++ (if point then ['.'] else [])
  else whole ++ '.' :: digits.drop (digits.length - places)

def fixed (places : Nat) (point : Bool) : Size → List Char
  | (n, d) => withPoint places point (digitsOf (places + 1) (roundDiv (n * Nat.pow 10 places) d))

/-- Greatest `e` with `10 ^ e ≤ n / d`, from an estimate that is not too great by more than `steps`. -/
def log10From (n d : Nat) : Nat → Int → Int
  | 0, e => e
  | steps + 1, e =>
    let (num, den) := timesPower 10 n d (-(e + 1))
    if den ≤ num then log10From n d steps (e + 1) else e

/-- Greatest `e` with `10 ^ e ≤ n / d`, for a positive quotient. -/
def log10 (n d : Nat) : Int :=
  let guess := (Nat.log2 n : Int) - Nat.log2 d
  log10From n d 8 (guess * 3 / 10 - 4)

/-- Significand of `places + 1` digits, and its exponent. -/
def scientific (places : Nat) : Size → Nat × Int
  | (n, d) =>
    if n = 0 then (0, 0)
    else
      let e := log10 n d
      let (num, den) := timesPower 10 n d (places - e)
      let k := roundDiv num den
      if k = Nat.pow 10 (places + 1) then (Nat.pow 10 places, e + 1) else (k, e)

def exponentText (e : Int) : List Char :=
  'e' :: (if e < 0 then '-' else '+') :: digitsOf 2 e.natAbs

def exponential (places : Nat) (point : Bool) (size : Size) : List Char :=
  let (k, e) := scientific places size
  withPoint places point (digitsOf (places + 1) k) ++ exponentText e

/-- Drops zeros behind the point, and a point that nothing follows. -/
def stripPlaces (cs : List Char) : List Char :=
  if cs.contains '.' then
    let kept := cs.reverse.dropWhile (· == '0')
    (if kept.head? == some '.' then kept.tail else kept).reverse
  else cs

/-- Significant digits that no number has more of. -/
def mostDigits : Nat := 767

/-- Text with a number of significant digits, in the shorter form; `keep` keeps the zeros at its end. -/
def general (precision : Nat) (keep : Bool) (size : Size) : List Char :=
  let precision := max (if keep then precision else min precision mostDigits) 1
  let strip := if keep then id else stripPlaces
  let (k, e) := scientific (precision - 1) size
  if -4 ≤ e && e < precision then
    strip (fixed ((precision : Int) - 1 - e).toNat keep size)
  else strip (withPoint (precision - 1) keep (digitsOf precision k)) ++ exponentText e

end FeatureCert.Binary64
