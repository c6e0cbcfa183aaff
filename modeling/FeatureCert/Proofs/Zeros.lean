import FeatureCert.Proofs.Written
import FeatureCert.Selection.Header
import Mathlib.Data.List.Induction
import Mathlib.Data.List.TakeWhile

/-!
Replacement texts for zero. A header's number is zero exactly where its digits are zeros, decimal ones of any
script or hexadecimal ones behind a mark.
-/
namespace FeatureCert

open FeatureCert.Text FeatureCert.Numeral

namespace Numeral

variable {c mark : Char} {cs sign body : List Char} {d : Nat} {n : Int}

/-- Only zeros denote zero. -/
theorem ofDigits_eq_zero_iff {base : Nat} (hbase : 0 < base) (digits : List Nat) :
    ofDigits base digits = 0 ↔ ∀ d ∈ digits, d = 0 := by
  induction digits using List.reverseRecOn with
  | nil => simp [ofDigits]
  | append_singleton digits d ih =>
    have hsnoc : ofDigits base (digits ++ [d]) = ofDigits base digits * base + d := by
      simp [ofDigits]
    have hne : base ≠ 0 := by omega
    rw [hsnoc, List.forall_mem_append, ← ih, List.forall_mem_singleton, Nat.add_eq_zero_iff,
      Nat.mul_eq_zero, or_iff_left hne]

theorem digitValue?_lt (h : digitValue? c = some d) : d < 10 := by
  unfold digitValue? at h
  simp only at h
  split at h
  · split at h
    · next hrange =>
      simp only [Bool.and_eq_true, decide_eq_true_eq] at hrange
      cases h
      omega
    · cases h
  · obtain ⟨start, hstart, rfl⟩ := Option.map_eq_some_iff.1 h
    have hrange := List.find?_some hstart
    simp only [Bool.and_eq_true, decide_eq_true_eq] at hrange
    omega

theorem isDigit_digitChar (h : d < 10) : (Nat.digitChar d).isDigit = true := by
  rw [isDigit_iff, Nat.toNat_digitChar_of_lt_ten h]
  omega

/-- Letters that mark a base behind a zero. -/
def allMarks : List Char := ['x', 'X', 'o', 'O', 'b', 'B']

/-- Without a base mark a literal is decimal, and zero if there is a zero in front. -/
theorem natural?_of_unmarked (hplain : ∀ c ∈ cs, c ∉ allMarks) :
    natural? cs = (decimalDigits? cs).bind fun digits =>
      if cs.head? = some '0' ∧ ofDigits 10 digits ≠ 0 then none else some (ofDigits 10 digits) := by
  unfold natural?
  split
  -- a zero in front that no mark follows, and then any other front
  case h_7 =>
    change ((decimalDigits? _).map (ofDigits 10)).bind _ = _
    rw [Option.bind_map]
    congr 1
    funext digits
    by_cases hzero : ofDigits 10 digits = 0 <;> simp [hzero]
  case h_8 hfront =>
    have hhead : cs.head? ≠ some '0' := by
      rintro h
      obtain ⟨rest, hrest⟩ := List.head?_eq_some_iff.1 h
      exact hfront rest hrest
    simp only [hhead, false_and, if_false, Option.map_eq_bind]
    rfl
  -- a zero and a mark
  all_goals
    have hmark := hplain _ (List.mem_cons_of_mem _ List.mem_cons_self)
    exact absurd hmark (by decide)

theorem isDigit_of_mem_allMarks : ∀ c ∈ allMarks, c.isDigit = false := by
  simp [allMarks]

/-- Digits of any script fold to the ASCII digits of their values. -/
theorem foldDigits_of_forall {value : Char → Nat}
    (hvalue : ∀ c ∈ body, digitValue? c = some (value c)) :
    foldDigits body = body.map fun c => Nat.digitChar (value c) := by
  apply List.map_congr_left
  intro c hc
  simp only [hvalue c hc]

theorem isDigit_of_mem_foldDigits {value : Char → Nat}
    (hvalue : ∀ c ∈ body, digitValue? c = some (value c)) (h : c ∈ foldDigits body) :
    c.isDigit = true := by
  rw [foldDigits_of_forall hvalue] at h
  obtain ⟨x, hx, rfl⟩ := List.mem_map.1 h
  exact isDigit_digitChar (digitValue?_lt (hvalue x hx))

theorem groupedDigits_foldDigits {value : Char → Nat} (hne : body ≠ [])
    (hvalue : ∀ c ∈ body, digitValue? c = some (value c)) :
    groupedDigits 10 false (foldDigits body) = some (body.map value) := by
  have hdigits := fun c (hc : c ∈ foldDigits body) =>
    digitIn?_of_isDigit (isDigit_of_mem_foldDigits hvalue hc)
  rw [groupedDigits_of_forall hdigits (.inl (by simpa [foldDigits] using hne)),
    foldDigits_of_forall hvalue, List.map_map]
  congr 1
  apply List.map_congr_left
  intro c hc
  simp [Nat.toNat_digitChar_of_lt_ten (digitValue?_lt (hvalue c hc))]

theorem digitChar_eq_zero_iff (h : d < 10) : Nat.digitChar d = '0' ↔ d = 0 := by
  have hcode : Nat.digitChar d = '0' ↔ (Nat.digitChar d).toNat = 48 := Char.toNat_inj.symm
  rw [hcode, Nat.toNat_digitChar_of_lt_ten h]
  omega

/-- Digits of a decimal text that is no literal: too many, or a zero in front of a number that is not zero. -/
def Refused (digits : List Nat) : Prop :=
  maxDigits < digits.length ∨ digits.head? = some 0 ∧ ∃ d ∈ digits, d ≠ 0

instance (digits : List Nat) : Decidable (Refused digits) := inferInstanceAs (Decidable (_ ∨ _))

/-- A decimal text is a literal of the number that its digits denote, unless they are refused. -/
theorem natural?_of_decimal {digits : List Nat} (hplain : ∀ c ∈ cs, c ∉ allMarks)
    (hread : groupedDigits 10 false cs = some digits)
    (hhead : cs.head? = some '0' ↔ digits.head? = some 0) :
    natural? cs = if Refused digits then none else some (ofDigits 10 digits) := by
  rw [natural?_of_unmarked hplain, decimalDigits?, hread]
  simp only [hhead]
  have hzero : ofDigits 10 digits ≠ 0 ↔ ∃ d ∈ digits, d ≠ 0 := by
    rw [Ne, ofDigits_eq_zero_iff (by decide)]
    push Not
    rfl
  rcases Nat.lt_or_ge maxDigits digits.length with hlong | hshort
  · simp [Refused, hlong, Nat.not_le_of_lt hlong]
  · have hkeep : (some digits).filter (·.length ≤ maxDigits) = some digits := by simpa using hshort
    rw [hkeep, Option.bind_some]
    simp only [Refused, Nat.not_lt_of_ge hshort, false_or, hzero]

/-- Digits of any script are read as ASCII ones, and refused as those are. -/
theorem natural?_foldDigits {value : Char → Nat} (hne : body ≠ [])
    (hvalue : ∀ c ∈ body, digitValue? c = some (value c)) :
    natural? (foldDigits body) =
      if Refused (body.map value) then none else some (ofDigits 10 (body.map value)) := by
  have hplain : ∀ c ∈ foldDigits body, c ∉ allMarks := by
    intro c hc hmark
    have hdigit := isDigit_of_mem_foldDigits hvalue hc
    rw [isDigit_of_mem_allMarks c hmark] at hdigit
    cases hdigit
  have hhead : (foldDigits body).head? = some '0' ↔ (body.map value).head? = some 0 := by
    rw [foldDigits_of_forall hvalue]
    cases body with
    | nil => simp
    | cons first rest =>
      simp [digitChar_eq_zero_iff (digitValue?_lt (hvalue first List.mem_cons_self))]
  exact natural?_of_decimal hplain (groupedDigits_foldDigits hne hvalue) hhead

theorem eq_some_getD {digit : Option Nat} (h : digit.isSome = true) :
    digit = some (digit.getD 0) := by
  obtain ⟨d, rfl⟩ := Option.isSome_iff_exists.1 h
  rfl

@[simp] theorem signed_eq_zero_iff {negative : Bool} : signed negative d = 0 ↔ d = 0 := by
  cases negative <;> simp [signed]

theorem splitSign_append (hsign : sign = [] ∨ sign = ['-']) (hdigits : ∀ c ∈ cs, c.isDigit = true) :
    splitSign (sign ++ cs) = (!sign.isEmpty, cs) := by
  rcases hsign with rfl | rfl
  · exact splitSign_of_digits hdigits
  · rfl

/-- A sign does not change whether a decimal literal is refused. -/
theorem literal?_decimal {value : Char → Nat} (hsign : sign = [] ∨ sign = ['-']) (hne : body ≠ [])
    (hvalue : ∀ c ∈ body, digitValue? c = some (value c)) :
    literal? (sign ++ body) = if Refused (body.map value) then none
      else some (signed (!sign.isEmpty) (ofDigits 10 (body.map value))) := by
  have hfold : foldDigits (sign ++ body) = sign ++ foldDigits body := by
    rcases hsign with rfl | rfl <;> rfl
  rw [literal?, hfold, splitSign_append hsign fun c hc => isDigit_of_mem_foldDigits hvalue hc]
  dsimp only
  rw [natural?_foldDigits hne hvalue]
  split <;> rfl

/-- A decimal literal is zero exactly where all its digits are. -/
theorem literal?_decimal_eq_zero_iff (hsign : sign = [] ∨ sign = ['-']) (hne : body ≠ [])
    (hbody : ∀ c ∈ body, (digitValue? c).isSome) (h : literal? (sign ++ body) = some n) :
    n = 0 ↔ ∀ c ∈ body, digitValue? c = some 0 := by
  have hvalue : ∀ c ∈ body, digitValue? c = some ((digitValue? c).getD 0) :=
    fun c hc => eq_some_getD (hbody c hc)
  rw [literal?_decimal hsign hne hvalue] at h
  split at h
  · cases h
  cases h
  rw [signed_eq_zero_iff, ofDigits_eq_zero_iff (by decide), List.forall_mem_map]
  apply forall₂_congr
  intro c hc
  rw [hvalue c hc]
  simp

/-- A digit is an ASCII character, and its value is zero only if it is the character zero. -/
theorem digitIn?_cases {base : Nat} (h : digitIn? base c = some d) :
    c.toNat < 128 ∧ (d = 0 ↔ c = '0') := by
  have hzero : c = '0' ↔ c.toNat = 48 := Char.toNat_inj.symm
  obtain ⟨hvalue, _⟩ := Option.filter_eq_some_iff.1 h
  simp only [Bool.and_eq_true, decide_eq_true_eq] at hvalue
  rw [hzero]
  split at hvalue
  · cases hvalue
    omega
  · split at hvalue
    · cases hvalue
      omega
    · split at hvalue
      · cases hvalue
        omega
      · cases hvalue

theorem afterMark?_of_forall {base : Nat} {value : Char → Nat} (hne : body ≠ [])
    (hvalue : ∀ c ∈ body, digitIn? base c = some (value c)) :
    afterMark? base body = some (ofDigits base (body.map value)) := by
  have hhead : (body.head? == some '_') = false := by
    cases body with
    | nil => rfl
    | cons first rest =>
      have hfirst := hvalue first List.mem_cons_self
      rw [List.head?_cons, beq_eq_false_iff_ne]
      intro he
      cases he
      rw [digitIn?_underscore] at hfirst
      cases hfirst
  rw [afterMark?, hhead]
  simp [groupedDigits_of_forall hvalue (.inl hne)]

/-- Hexadecimal digits are never refused, as there is no limit on them. -/
theorem literal?_hexadecimal {value : Char → Nat} (hmark : mark = 'x' ∨ mark = 'X') (hne : body ≠ [])
    (hvalue : ∀ c ∈ body, digitIn? 16 c = some (value c)) :
    literal? ('0' :: mark :: body) = some (signed false (ofDigits 16 (body.map value))) := by
  have hfold : foldDigits ('0' :: mark :: body) = '0' :: mark :: body := by
    apply foldDigits_eq_self
    simp only [List.forall_mem_cons]
    refine ⟨by decide, ?_, fun c hc => (digitIn?_cases (hvalue c hc)).1⟩
    rcases hmark with rfl | rfl <;> decide
  have hread : natural? ('0' :: mark :: body) = afterMark? 16 body := by
    rcases hmark with rfl | rfl <;> rfl
  have hsplit : splitSign ('0' :: mark :: body) = (false, '0' :: mark :: body) := rfl
  rw [literal?, hfold, hsplit]
  simp only [hread, afterMark?_of_forall hne hvalue, Option.map_some]

/-- A hexadecimal literal is zero exactly where all its digits are. -/
theorem literal?_hexadecimal_eq_zero_iff (hmark : mark = 'x' ∨ mark = 'X') (hne : body ≠ [])
    (hbody : ∀ c ∈ body, (digitIn? 16 c).isSome) (h : literal? ('0' :: mark :: body) = some n) :
    n = 0 ↔ ∀ c ∈ body, c = '0' := by
  have hvalue : ∀ c ∈ body, digitIn? 16 c = some ((digitIn? 16 c).getD 0) :=
    fun c hc => eq_some_getD (hbody c hc)
  rw [literal?_hexadecimal hmark hne hvalue, Option.some.injEq] at h
  rw [← h, signed_eq_zero_iff, ofDigits_eq_zero_iff (by decide), List.forall_mem_map]
  exact forall₂_congr fun c hc => (digitIn?_cases (hvalue c hc)).2

end Numeral

namespace Selection

/-- Splits a replacement text into a number's digits, with a minus or a base mark, and suffix letters. -/
inductive Splits : List Char → List Char → Prop where
  | decimal {sign body suffix : List Char} (hsign : sign = [] ∨ sign = ['-']) (hne : body ≠ [])
      (hbody : ∀ c ∈ body, isDecimalDigit c = true) (hsuffix : ∀ c ∈ suffix, isSuffix c = true) :
      Splits (sign ++ (body ++ suffix)) (sign ++ body)
  | hexadecimal {mark : Char} {body suffix : List Char} (hmark : mark = 'x' ∨ mark = 'X')
      (hne : body ≠ []) (hbody : ∀ c ∈ body, isHexDigit c = true)
      (hsuffix : ∀ c ∈ suffix, isSuffix c = true) :
      Splits ('0' :: mark :: (body ++ suffix)) ('0' :: mark :: body)

/-- The texts of zero: zeros behind a minus or none, or behind a hexadecimal mark, and then suffix letters. -/
inductive IsZero : List Char → Prop where
  | decimal {sign zeros suffix : List Char} (hsign : sign = [] ∨ sign = ['-']) (hne : zeros ≠ [])
      (hzeros : ∀ c ∈ zeros, digitValue? c = some 0) (hsuffix : ∀ c ∈ suffix, isSuffix c = true) :
      IsZero (sign ++ (zeros ++ suffix))
  | hexadecimal {mark : Char} {zeros suffix : List Char} (hmark : mark = 'x' ∨ mark = 'X')
      (hne : zeros ≠ []) (hzeros : ∀ c ∈ zeros, c = '0')
      (hsuffix : ∀ c ∈ suffix, isSuffix c = true) : IsZero ('0' :: mark :: (zeros ++ suffix))

variable {c mark : Char} {cs sign body suffix digits rest : List Char} {p : Char → Bool} {v : Value}

theorem takeWhile_append_eq (hbody : ∀ c ∈ body, p c = true) (hsuffix : ∀ c ∈ suffix, p c = false) :
    (body ++ suffix).takeWhile p = body := by
  rw [List.takeWhile_append_of_pos hbody]
  cases suffix with
  | nil => simp
  | cons c rest => simp [hsuffix c List.mem_cons_self]

theorem dropWhile_append_eq (hbody : ∀ c ∈ body, p c = true) (hsuffix : ∀ c ∈ suffix, p c = false) :
    (body ++ suffix).dropWhile p = suffix := by
  rw [List.dropWhile_append_of_pos hbody]
  exact dropWhile_eq_self fun c hc => hsuffix c (List.mem_of_mem_head? hc)

/-- No suffix letter is a digit or a mark. -/
theorem suffix_char (h : isSuffix c = true) :
    isDecimalDigit c = false ∧ isHexDigit c = false ∧ c ≠ 'x' ∧ c ≠ 'X' := by
  simp only [isSuffix, Bool.or_eq_true, beq_iff_eq] at h
  rcases h with ((rfl | rfl) | rfl) | rfl <;> decide

theorem splitMinus_append (hsign : sign = [] ∨ sign = ['-']) (hhead : cs.head? ≠ some '-') :
    splitMinus (sign ++ cs) = (sign, cs) := by
  rcases hsign with rfl | rfl
  · rw [List.nil_append]
    unfold splitMinus
    split
    · simp at hhead
    · rfl
  · rfl

theorem splitMinus_cases (cs : List Char) :
    cs = (splitMinus cs).1 ++ (splitMinus cs).2 ∧
      ((splitMinus cs).1 = [] ∨ (splitMinus cs).1 = ['-']) := by
  unfold splitMinus
  split <;> simp

theorem splits_of_decimalPart? (h : decimalPart? cs = some digits) : Splits cs digits := by
  obtain ⟨hcs, hsign⟩ := splitMinus_cases cs
  unfold decimalPart? at h
  simp only [Bool.or_eq_true, Bool.not_eq_true'] at h
  split at h
  · cases h
  · next hnumber =>
    rw [not_or, Bool.not_eq_false, List.all_eq_true, List.isEmpty_iff] at hnumber
    obtain ⟨hne, hsuffix⟩ := hnumber
    have hsplits := Splits.decimal hsign hne (fun c hc => List.mem_takeWhile_imp hc) hsuffix
    rw [List.takeWhile_append_dropWhile, ← hcs] at hsplits
    cases h
    exact hsplits

theorem decimalPart?_of_digits (hsign : sign = [] ∨ sign = ['-']) (hne : body ≠ [])
    (hbody : ∀ c ∈ body, isDecimalDigit c = true) (hsuffix : ∀ c ∈ suffix, isSuffix c = true) :
    decimalPart? (sign ++ (body ++ suffix)) = some (sign ++ body) := by
  have hplain : ∀ c ∈ suffix, isDecimalDigit c = false :=
    fun c hc => (suffix_char (hsuffix c hc)).1
  have hhead : (body ++ suffix).head? ≠ some '-' := by
    obtain ⟨first, rest, rfl⟩ := List.exists_cons_of_ne_nil hne
    intro hminus
    cases hminus
    exact absurd (hbody '-' List.mem_cons_self) (by decide)
  simpa [decimalPart?, splitMinus_append hsign hhead, takeWhile_append_eq hbody hplain,
    dropWhile_append_eq hbody hplain, hne] using hsuffix

theorem splits_of_numberPart? (h : numberPart? cs = some digits) : Splits cs digits := by
  unfold numberPart? at h
  split at h
  · next mark rest =>
    simp only at h
    split at h
    · next hnumber =>
      simp only [Bool.and_eq_true, Bool.or_eq_true, beq_iff_eq, Bool.not_eq_true',
        List.isEmpty_eq_false_iff, List.all_eq_true] at hnumber
      obtain ⟨⟨hmark, hne⟩, hsuffix⟩ := hnumber
      cases h
      have hsplits := Splits.hexadecimal hmark hne (fun c hc => List.mem_takeWhile_imp hc) hsuffix
      rwa [List.takeWhile_append_dropWhile] at hsplits
    · exact splits_of_decimalPart? h
  · exact splits_of_decimalPart? h

/-- Without a mark of base sixteen a number is decimal. -/
theorem numberPart?_of_unmarked (h : ∀ c ∈ cs, c ≠ 'x' ∧ c ≠ 'X') :
    numberPart? cs = decimalPart? cs := by
  unfold numberPart?
  split
  · next mark rest =>
    have hmark := h mark (List.mem_cons_of_mem _ List.mem_cons_self)
    simp [hmark]
  · rfl

/-- The way in which a text splits is the way in which it is read. -/
theorem numberPart?_of_splits (h : Splits cs digits) : numberPart? cs = some digits := by
  cases h with
  | @decimal sign body suffix hsign hne hbody hsuffix =>
    rw [← decimalPart?_of_digits hsign hne hbody hsuffix]
    -- a decimal text that begins with a zero is not taken for a hexadecimal one
    apply numberPart?_of_unmarked
    intro c hc
    rw [List.mem_append, List.mem_append] at hc
    rcases hc with hc | hc | hc
    · rcases hsign with rfl | rfl
      · cases hc
      · cases List.mem_singleton.1 hc
        decide
    · have hdigit := hbody c hc
      constructor <;> rintro rfl <;> exact absurd hdigit (by decide)
    · exact (suffix_char (hsuffix c hc)).2.2
  | @hexadecimal mark body suffix hmark hne hbody hsuffix =>
    have hplain : ∀ c ∈ suffix, isHexDigit c = false :=
      fun c hc => (suffix_char (hsuffix c hc)).2.1
    simp only [numberPart?, takeWhile_append_eq hbody hplain, dropWhile_append_eq hbody hplain]
    rw [if_pos]
    simpa [hmark, hne] using hsuffix

theorem Splits.unique {digits' : List Char} (h : Splits cs digits) (h' : Splits cs digits') :
    digits = digits' := by
  have hnumber := numberPart?_of_splits h
  rw [numberPart?_of_splits h', Option.some.injEq] at hnumber
  exact hnumber.symm

/-- The digits of a zero, which are a literal of zero and of nothing else. -/
theorem IsZero.splits (h : IsZero cs) :
    ∃ digits, Splits cs digits ∧ ∀ n, literal? digits = some n → n = 0 := by
  cases h with
  | @decimal sign zeros suffix hsign hne hzeros hsuffix =>
    have hbody : ∀ c ∈ zeros, isDecimalDigit c = true := by
      intro c hc
      simp [isDecimalDigit, hzeros c hc]
    exact ⟨_, .decimal hsign hne hbody hsuffix,
      fun n hn => (literal?_decimal_eq_zero_iff hsign hne hbody hn).2 hzeros⟩
  | @hexadecimal mark zeros suffix hmark hne hzeros hsuffix =>
    have hbody : ∀ c ∈ zeros, isHexDigit c = true := by
      intro c hc
      rw [hzeros c hc]
      decide
    exact ⟨_, .hexadecimal hmark hne hbody hsuffix,
      fun n hn => (literal?_hexadecimal_eq_zero_iff hmark hne hbody hn).2 hzeros⟩

theorem isZero_of_splits (h : Splits cs digits) (hzero : literal? digits = some 0) : IsZero cs := by
  cases h with
  | decimal hsign hne hbody hsuffix =>
    exact .decimal hsign hne ((literal?_decimal_eq_zero_iff hsign hne hbody hzero).1 rfl) hsuffix
  | hexadecimal hmark hne hbody hsuffix =>
    exact .hexadecimal hmark hne ((literal?_hexadecimal_eq_zero_iff hmark hne hbody hzero).1 rfl) hsuffix

/-- A replacement text is read as on, or as the number that its digits are a literal of. -/
theorem replacementValue_cases (h : replacementValue rest = .ok v) :
    v = .bool true ∧ numberPart? (trim (dropComments rest)) = none ∨
      ∃ digits n, v = .int n ∧ Splits (trim (dropComments rest)) digits ∧ literal? digits = some n := by
  unfold replacementValue at h
  split at h
  · next hnone =>
    cases h
    exact .inl ⟨rfl, hnone⟩
  · next digits hdigits =>
    split at h
    · next n hn =>
      cases h
      exact .inr ⟨digits, n, rfl, splits_of_numberPart? hdigits, hn⟩
    · cases h

/-- A replacement text is read as zero exactly where it is a text of zero. -/
theorem replacementValue_eq_zero_iff (h : replacementValue rest = .ok v) :
    v = .int 0 ↔ IsZero (trim (dropComments rest)) := by
  rcases replacementValue_cases h with ⟨rfl, hnone⟩ | ⟨digits, n, rfl, hsplits, hn⟩
  · refine iff_of_false (by simp) fun hzero => ?_
    obtain ⟨digits, hsplits, _⟩ := hzero.splits
    rw [numberPart?_of_splits hsplits] at hnone
    cases hnone
  · rw [Value.int.injEq]
    constructor
    · rintro rfl
      exact isZero_of_splits hsplits hn
    · intro hzero
      obtain ⟨digits', hsplits', hvalue⟩ := hzero.splits
      cases hsplits.unique hsplits'
      exact hvalue n hn

end Selection
end FeatureCert
