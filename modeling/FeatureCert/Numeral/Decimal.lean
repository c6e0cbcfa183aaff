/-!
Decimal text of integers. A decimal text holds at most `maxDigits` digits, in writing as in reading;
a longer one is refused, while texts in a base that is a power of two have no limit.
-/
namespace FeatureCert.Numeral

def maxDigits : Nat := 4300

/-- The cause of a refusal: a decimal text over the digit limit. -/
inductive DigitLimit where
  | exceeded
  deriving DecidableEq, Repr

/-- Whether an integer has a decimal text. -/
def Writable (n : Int) : Prop := n.natAbs < Nat.pow 10 maxDigits

instance (n : Int) : Decidable (Writable n) := inferInstanceAs (Decidable (_ < _))

/-- Decimal text of an integer within the limit. -/
def decimal (n : Int) : Except DigitLimit String :=
  if Writable n then .ok (toString n) else .error .exceeded

theorem decimal_of_writable {n : Int} (h : Writable n) : decimal n = .ok (toString n) := by
  simp [decimal, h]

theorem decimal_of_not_writable {n : Int} (h : ¬ Writable n) : decimal n = .error .exceeded := by
  simp [decimal, h]

/-- Lower-case hexadecimal text with its base mark; every integer has one. -/
def hexadecimal (n : Int) : String :=
  (if n < 0 then "-0x" else "0x") ++ String.ofList (Nat.toDigits 16 n.natAbs)

def padded (width n : Nat) : String :=
  let digits := Nat.toDigits 10 n
  String.ofList (List.replicate (width - digits.length) '0' ++ digits)

end FeatureCert.Numeral
