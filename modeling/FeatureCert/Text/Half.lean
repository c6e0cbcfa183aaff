/-!
Halves of pairs: the codes from D800 to DFFF, which name no character, though an escape may give one. A
text holds them as private characters, which are the same ones in order from 10F000 on; it never holds these
characters for themselves. Where they may occur, a text is a row of code points.
-/
namespace FeatureCert.Text

def firstHalf : Nat := 0xd800

/-- First of the characters that stand for halves. -/
def halfStart : Nat := 0x10f000

def halfCount : Nat := 0x800

def isHalfCode (n : Nat) : Bool := firstHalf ≤ n && n < firstHalf + halfCount

def isHalf (c : Char) : Bool := halfStart ≤ c.toNat && c.toNat < halfStart + halfCount

/-- Character of a code. -/
def ofCode (n : Nat) : Char := Char.ofNat (if isHalfCode n then halfStart + (n - firstHalf) else n)

/-- Code of a character. -/
def codeOf (c : Char) : Nat := if isHalf c then firstHalf + (c.toNat - halfStart) else c.toNat

/-- Whether a code is one of the half that comes first in a pair. -/
def isHighCode (n : Nat) : Bool := firstHalf ≤ n && n < 0xdc00

/-- Whether a code is one of the half that comes second in a pair. -/
def isLowCode (n : Nat) : Bool := 0xdc00 ≤ n && n < firstHalf + halfCount

/-- Code that a pair of halves stands for. -/
def pairCode (high low : Nat) : Nat := 0x10000 + (high - firstHalf) * 0x400 + (low - 0xdc00)

/-- Codes of a text. Texts that are put in order stand in the order of their codes. -/
def codes (s : String) : List Nat := s.toList.map codeOf

/-- Whether a text may stand in front of another, as their codes are in order. -/
def inOrder (a b : String) : Bool := !(codes b).lex (codes a) (· < ·)

/-- Whether a half stands for an octet that is no text, as the name of a file may hold it. -/
def isLooseOctet (c : Char) : Bool := 0xdc80 ≤ codeOf c && codeOf c < 0xdd00

/-- Whether a text holds a half, and so has no octets. -/
def hasHalf (s : String) : Bool := s.toList.any isHalf

/-- A text with each half replaced by as many marks as it would have octets. -/
def replaceHalves (s : String) : String :=
  String.ofList (s.toList.flatMap fun c => if isHalf c then List.replicate 3 '\ufffd' else [c])

@[simp] theorem hasHalf_empty : hasHalf "" = false := rfl

variable {c : Char} {n : Nat}

theorem isHalfCode_iff : isHalfCode n = true ↔ 0xd800 ≤ n ∧ n < 0xe000 := by
  rw [isHalfCode, Bool.and_eq_true, decide_eq_true_eq, decide_eq_true_eq]
  rfl

theorem isHalf_iff : isHalf c = true ↔ 0x10f000 ≤ c.toNat ∧ c.toNat < 0x10f800 := by
  rw [isHalf, Bool.and_eq_true, decide_eq_true_eq, decide_eq_true_eq]
  rfl

theorem toNat_cases (c : Char) : c.toNat < 0xd800 ∨ 0xdfff < c.toNat ∧ c.toNat < 0x110000 := c.valid

theorem codeOf_of_half (h : isHalf c = true) : codeOf c = 0xd800 + (c.toNat - 0x10f000) := if_pos h

/-- A character that is no half has its own code. -/
theorem codeOf_of_not_half (h : ¬ isHalf c = true) : codeOf c = c.toNat := if_neg h

/-- Halves and characters alike have codes below the end of Unicode. -/
theorem codeOf_lt (c : Char) : codeOf c < 0x110000 := by
  by_cases h : isHalf c = true
  · have hbounds := isHalf_iff.1 h
    rw [codeOf_of_half h]
    omega
  · have hvalid := toNat_cases c
    rw [codeOf_of_not_half h]
    omega

/-- A character stands for one code, halves included. -/
@[simp] theorem ofCode_codeOf (c : Char) : ofCode (codeOf c) = c := by
  by_cases h : isHalf c = true
  · have hbounds := isHalf_iff.1 h
    have hcode : isHalfCode (codeOf c) = true := by
      rw [codeOf_of_half h, isHalfCode_iff]
      omega
    have hback : halfStart + (codeOf c - firstHalf) = c.toNat := by
      rw [codeOf_of_half h, halfStart, firstHalf]
      omega
    rw [ofCode, if_pos hcode, hback, Char.ofNat_toNat]
  · have hcode : ¬ isHalfCode (codeOf c) = true := by
      rw [codeOf_of_not_half h, isHalfCode_iff]
      have hvalid := toNat_cases c
      omega
    rw [ofCode, if_neg hcode, codeOf_of_not_half h, Char.ofNat_toNat]

theorem codes_inj {a b : String} : codes a = codes b ↔ a = b := by
  constructor
  · intro h
    have hback := congrArg (List.map ofCode) h
    simpa [codes, Function.comp_def, String.toList_inj] using hback
  · exact congrArg codes

theorem inOrder_iff {a b : String} : inOrder a b = true ↔ ¬ codes b < codes a := by
  rw [inOrder, Bool.not_eq_true', ← Bool.not_eq_true, List.lex_eq_true_iff_lt]

end FeatureCert.Text
