/-!
Binary floating-point numbers of 64 bits, as exact values: a significand below `2 ^ 53` times a power
of two. Rounding takes the nearest such value to an exact quotient, and of two equally near ones that
with the even significand.
-/
namespace FeatureCert

/-- A number of the format; a finite one is `significand * 2 ^ exponent` with its sign. -/
inductive Binary64 where
  | nan
  | infinite (negative : Bool)
  | finite (negative : Bool) (significand : Nat) (exponent : Int)
  deriving DecidableEq, Repr

namespace Binary64

def minExponent : Int := -1074

def maxExponent : Int := 971

/-- Quotient rounded to the nearest integer, half to even. -/
def roundDiv (num den : Nat) : Nat :=
  let q := num / den
  let r := num % den
  if 2 * r < den then q
  else if den < 2 * r then q + 1
  else q + q % 2

/-- The quotient `num / den` times a power of a base. -/
def timesPower (base num den : Nat) (exponent : Int) : Nat × Nat :=
  if exponent < 0 then (num, den * Nat.pow base exponent.natAbs)
  else (num * Nat.pow base exponent.natAbs, den)

/-- Greatest `k` with `2 ^ k ≤ num / den`, for positive arguments. -/
def log2Ratio (num den : Nat) : Int :=
  let k : Int := (Nat.log2 num : Int) - Nat.log2 den
  let (n, d) := timesPower 2 num den (-k)
  if n < d then k - 1 else k

/-- Nearest number to `num / den`, with a sign; `den` is positive. -/
def ofRatio (negative : Bool) (num den : Nat) : Binary64 :=
  if num = 0 then .finite negative 0 minExponent
  else
    let e := max minExponent (log2Ratio num den - 52)
    let (n, d) := timesPower 2 num den (-e)
    let m := roundDiv n d
    let (m, e) := if m = 0x20000000000000 then (0x10000000000000, e + 1) else (m, e)
    if maxExponent < e then .infinite negative else .finite negative m e

def ofInt (n : Int) : Binary64 := ofRatio (n < 0) n.natAbs 1

/-- Nearest number to `digits * 10 ^ exponent`. -/
def ofDecimal (negative : Bool) (digits : Nat) (exponent : Int) : Binary64 :=
  if digits = 0 then .finite negative 0 minExponent
  else
    let size : Int := (Nat.log2 digits : Int) / 3 + 2
    if 400 < exponent then .infinite negative
    else if exponent + size < -400 then .finite negative 0 minExponent
    else
      let (n, d) := timesPower 10 digits 1 exponent
      ofRatio negative n d

/-- Exact value of a finite number as a signed numerator and a denominator. -/
def ratio? : Binary64 → Option (Int × Nat)
  | .finite negative m e =>
    let (n, d) := timesPower 2 m 1 e
    some (if negative then -(n : Int) else n, d)
  | _ => none

/-- The integer that a number equals. -/
def toInt? (x : Binary64) : Option Int := do
  let (n, d) ← x.ratio?
  if n % d = 0 then some (n / d) else none

def neg : Binary64 → Binary64
  | .nan => .nan
  | .infinite s => .infinite !s
  | .finite s m e => .finite (!s) m e

/-- Rounded sum of two finite numbers; a sum with an infinite one is that one. -/
def add (x y : Binary64) : Binary64 :=
  match x, y with
  | .nan, _ => .nan
  | _, .nan => .nan
  | .infinite s, .infinite t => if s == t then .infinite s else .nan
  | .infinite s, _ => .infinite s
  | _, .infinite t => .infinite t
  | .finite s _ _, .finite t _ _ =>
    match x.ratio?, y.ratio? with
    | some (a, b), some (c, d) =>
      let n := a * d + c * b
      if n = 0 then .finite (s && t) 0 minExponent else ofRatio (n < 0) n.natAbs (b * d)
    | _, _ => .nan

/-- Rounded product of two numbers; an infinite one times zero is no number. -/
def mul (x y : Binary64) : Binary64 :=
  match x, y with
  | .nan, _ => .nan
  | _, .nan => .nan
  | .infinite s, .infinite t => .infinite (s != t)
  | .infinite s, .finite t m _ => if m = 0 then .nan else .infinite (s != t)
  | .finite s m _, .infinite t => if m = 0 then .nan else .infinite (s != t)
  | .finite s _ _, .finite t _ _ =>
    match x.ratio?, y.ratio? with
    | some (a, b), some (c, d) => ofRatio (s != t) (a.natAbs * c.natAbs) (b * d)
    | _, _ => .nan

/-- The number with a zero made positive. -/
def unsignZero : Binary64 → Binary64
  | .finite _ 0 e => .finite false 0 e
  | x => x

/-- Equality of values: both zeros are equal, and a nan equals nothing. -/
def sameValue (x y : Binary64) : Bool := x != .nan && x.unsignZero == y.unsignZero

end Binary64
end FeatureCert
