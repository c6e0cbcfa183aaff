import FeatureCert.Selection.Text
import Mathlib.Data.List.TakeWhile

/-!
Written names and numbers. The decimal text of an integer is a literal of that integer, and a name or a name
with a number behind an equals sign is read as just that.
-/
namespace FeatureCert

open FeatureCert.Text FeatureCert.Numeral

namespace Text

theorem isBlank_eq_false {c : Char} (h : 33 ≤ c.toNat) (h' : c.toNat < 127) : isBlank c = false := by
  simp [isBlank]
  omega

theorem dropWhile_eq_self {p : Char → Bool} {cs : List Char} (h : ∀ c ∈ cs.head?, p c = false) :
    cs.dropWhile p = cs := by
  cases cs with
  | nil => rfl
  | cons c rest => rw [List.dropWhile_cons_of_neg (by simp [h c rfl])]

theorem trim_eq_self {cs : List Char} (h : ∀ c ∈ cs, isBlank c = false) : trim cs = cs := by
  have hfront : cs.dropWhile isBlank = cs :=
    dropWhile_eq_self fun c hc => h c (List.mem_of_mem_head? hc)
  have hback : cs.reverse.dropWhile isBlank = cs.reverse :=
    dropWhile_eq_self fun c hc => h c (List.mem_reverse.1 (List.mem_of_mem_head? hc))
  rw [trim, hfront, hback, List.reverse_reverse]

/-- What is left begins with the first character that does not pass. -/
theorem dropWhile_eq_iff {p : Char → Bool} {cs rest : List Char} :
    cs.dropWhile p = rest ↔
      ∃ front, cs = front ++ rest ∧ (∀ c ∈ front, p c = true) ∧ ∀ c ∈ rest.head?, p c = false := by
  constructor
  · rintro rfl
    refine ⟨cs.takeWhile p, List.takeWhile_append_dropWhile.symm, fun c hc => List.mem_takeWhile_imp hc, ?_⟩
    intro c hc
    have hstop := List.head?_dropWhile_not p cs
    rw [Option.mem_def.1 hc] at hstop
    exact hstop
  · rintro ⟨front, rfl, hfront, hrest⟩
    rw [List.dropWhile_append_of_pos hfront]
    exact dropWhile_eq_self hrest

/-- `core` is a text without the blanks around it. -/
structure IsCore (core cs : List Char) : Prop where
  around : ∃ front back, cs = front ++ (core ++ back) ∧ (∀ c ∈ front, isBlank c = true) ∧
    ∀ c ∈ back, isBlank c = true
  head : ∀ c ∈ core.head?, isBlank c = false
  last : ∀ c ∈ core.getLast?, isBlank c = false

theorem isCore_trim (cs : List Char) : IsCore (trim cs) cs := by
  obtain ⟨front, hfront, hblank, hhead⟩ := dropWhile_eq_iff.1 (Eq.refl (cs.dropWhile isBlank))
  obtain ⟨back, hback, hblank', hlast⟩ :=
    dropWhile_eq_iff.1 (Eq.refl ((cs.dropWhile isBlank).reverse.dropWhile isBlank))
  have hrest : cs.dropWhile isBlank = trim cs ++ back.reverse := by
    rw [← List.reverse_reverse (cs.dropWhile isBlank), hback, List.reverse_append]
    rfl
  refine ⟨⟨front, back.reverse, by rw [← hrest, ← hfront], hblank, by simpa using hblank'⟩, ?_, ?_⟩
  · intro c hc
    apply hhead c
    rw [hrest, List.head?_append, Option.mem_def.1 hc]
    rfl
  · intro c hc
    apply hlast c
    rw [trim, List.getLast?_reverse] at hc
    exact hc

/-- A text has one core only. -/
theorem IsCore.trim_eq {core cs : List Char} (h : IsCore core cs) : trim cs = core := by
  obtain ⟨front, back, rfl, hfront, hback⟩ := h.around
  rw [trim, List.dropWhile_append_of_pos hfront]
  cases core with
  | nil =>
    have hnone : back.dropWhile isBlank = [] := by simpa [List.dropWhile_eq_nil_iff] using hback
    rw [List.nil_append, hnone]
    rfl
  | cons first rest =>
    have hkeep : (first :: rest ++ back).dropWhile isBlank = first :: rest ++ back :=
      dropWhile_eq_self h.head
    have hdrop : (first :: rest ++ back).reverse.dropWhile isBlank = (first :: rest).reverse := by
      refine dropWhile_eq_iff.2 ⟨back.reverse, List.reverse_append, by simpa using hback, ?_⟩
      rw [List.head?_reverse]
      exact h.last
    rw [hkeep, hdrop, List.reverse_reverse]

theorem trim_eq_iff {core cs : List Char} : trim cs = core ↔ IsCore core cs := by
  refine ⟨?_, IsCore.trim_eq⟩
  rintro rfl
  exact isCore_trim cs

theorem ofList_eq_iff {cs : List Char} {text : String} : String.ofList cs = text ↔ cs = text.toList := by
  rw [← String.toList_inj, String.toList_ofList]

theorem splitFirst_of_notMem {stop : Char} {cs : List Char} (h : stop ∉ cs) :
    splitFirst stop cs = (cs, none) := by
  induction cs with
  | nil => rfl
  | cons c rest ih =>
    rw [List.mem_cons, not_or] at h
    have hc : (c == stop) = false := by simpa using Ne.symm h.1
    simp [splitFirst, hc, ih h.2]

/-- What stands before the first stop is split off. -/
theorem splitFirst_append {stop : Char} {before : List Char} (after : List Char)
    (h : stop ∉ before) : splitFirst stop (before ++ stop :: after) = (before, some after) := by
  induction before with
  | nil => simp [splitFirst]
  | cons c rest ih =>
    rw [List.mem_cons, not_or] at h
    have hc : (c == stop) = false := by simpa using Ne.symm h.1
    simp [splitFirst, hc, ih h.2]

end Text

namespace Identifier

variable {c : Char} {name : List Char}

theorem isPart_of_isStart (h : isStart c = true) : isPart c = true := by
  simp only [isStart, isPart, Char.isAlphanum, Bool.or_eq_true] at *
  exact h.imp_left .inl

theorem isPart_of_mem (h : isValid name = true) (hc : c ∈ name) : isPart c = true := by
  cases name with
  | nil => cases hc
  | cons first rest =>
    rw [isValid_cons, Bool.and_eq_true, List.all_eq_true] at h
    rcases List.mem_cons.1 hc with rfl | hc
    · exact isPart_of_isStart h.1
    · exact h.2 c hc

theorem letter_bounds (h : c.isAlpha = true) : 65 ≤ c.toNat ∧ c.toNat ≤ 122 := by
  rcases Bool.or_eq_true_iff.1 h with hupper | hlower
  · have hbounds : 65 ≤ c.toNat ∧ c.toNat ≤ 90 := of_decide_eq_true hupper
    omega
  · obtain ⟨hlow, hhigh⟩ := Bool.and_eq_true_iff.1 hlower
    have hbounds : 97 ≤ c.toNat ∧ c.toNat ≤ 122 :=
      ⟨of_decide_eq_true hlow, of_decide_eq_true hhigh⟩
    omega

/-- No part of an identifier is a blank, so that trimming leaves it alone. -/
theorem isBlank_of_isPart (h : isPart c = true) : isBlank c = false := by
  rcases Bool.or_eq_true_iff.1 h with hword | hscore
  · rcases Bool.or_eq_true_iff.1 hword with hletter | hdigit
    · have hbounds := letter_bounds hletter
      exact isBlank_eq_false (by omega) (by omega)
    · have hbounds : 48 ≤ c.toNat ∧ c.toNat ≤ 57 := Char.isDigit_iff_toNat.1 hdigit
      exact isBlank_eq_false (by omega) (by omega)
  · cases eq_of_beq hscore
    decide

theorem equals_notMem (h : isValid name = true) : '=' ∉ name := by
  intro hmem
  have hpart := isPart_of_mem h hmem
  revert hpart
  decide

end Identifier

namespace Numeral

variable {c : Char} {cs : List Char} {n : Nat}

theorem isDigit_iff : c.isDigit = true ↔ 48 ≤ c.toNat ∧ c.toNat ≤ 57 := Char.isDigit_iff_toNat

theorem digitValue?_of_isDigit (h : c.isDigit = true) : digitValue? c = some (c.toNat - 48) := by
  have hbounds := isDigit_iff.1 h
  have hascii : c.toNat < 128 := by omega
  simp [digitValue?, hascii, hbounds]

theorem digitIn?_of_isDigit (h : c.isDigit = true) : digitIn? 10 c = some (c.toNat - 48) := by
  have hbounds := isDigit_iff.1 h
  have hten : c.toNat - 48 < 10 := by omega
  simp [digitIn?, hbounds, hten]

theorem digitChar_of_isDigit (h : c.isDigit = true) : Nat.digitChar (c.toNat - 48) = c := by
  have hbounds := isDigit_iff.1 h
  apply Char.toNat_inj.1
  rw [Nat.toNat_digitChar_of_lt_ten (by omega)]
  omega

/-- Folding digits leaves ASCII as it is. -/
theorem foldDigits_eq_self (h : ∀ c ∈ cs, c.toNat < 128) : foldDigits cs = cs := by
  rw [foldDigits]
  apply (List.map_congr_left _).trans (List.map_id cs)
  intro c hc
  by_cases hdigit : c.isDigit = true
  · rw [digitValue?_of_isDigit hdigit]
    exact digitChar_of_isDigit hdigit
  · have hnone : digitValue? c = none := by
      rw [isDigit_iff] at hdigit
      simpa [digitValue?, h c hc] using hdigit
    rw [hnone]
    rfl

theorem digitIn?_underscore (base : Nat) : digitIn? base '_' = none := by
  simp [digitIn?]

/-- A run of digits is read digit by digit. -/
theorem groupedDigits_of_forall {base : Nat} {value : Char → Nat}
    (h : ∀ c ∈ cs, digitIn? base c = some (value c)) {more : Bool} (hmore : cs ≠ [] ∨ more = true) :
    groupedDigits base more cs = some (cs.map value) := by
  induction cs generalizing more with
  | nil => simp_all [groupedDigits]
  | cons c rest ih =>
    have hc := h c List.mem_cons_self
    have hmark : (c == '_') = false := by
      rw [beq_eq_false_iff_ne]
      rintro rfl
      rw [digitIn?_underscore] at hc
      cases hc
    have hrest := ih (fun x hx => h x (List.mem_cons_of_mem _ hx)) (.inr (Eq.refl true))
    simp [groupedDigits, hmark, hc, hrest]

theorem ofDigits_eq (cs : List Char) (n : Nat) :
    (cs.map fun c => c.toNat - 48).foldl (fun n d => n * 10 + d) n = Nat.ofDigitChars 10 cs n := by
  rw [Nat.ofDigitChars_eq_foldl, List.foldl_map]
  congr 1
  funext n c
  rw [Nat.mul_comm]
  rfl

theorem length_toDigits_le {k : Nat} (hk : 0 < k) (h : n < Nat.pow 10 k) :
    (Nat.toDigits 10 n).length ≤ k :=
  (Nat.length_toDigits_le_iff (by decide) hk).2 h

/-- Written digits are within the limit, and have no zero in front. -/
theorem decimalDigits?_toDigits (h : n < Nat.pow 10 maxDigits) :
    decimalDigits? (Nat.toDigits 10 n) = some ((Nat.toDigits 10 n).map fun c => c.toNat - 48) := by
  have hdigits : ∀ c ∈ Nat.toDigits 10 n, c.isDigit = true :=
    fun c hc => Nat.isDigit_of_mem_toDigits (by decide) (by decide) hc
  rw [decimalDigits?, groupedDigits_of_forall (fun c hc => digitIn?_of_isDigit (hdigits c hc))
    (.inl Nat.toDigits_ne_nil)]
  simp [length_toDigits_le (by decide) h]

theorem ofDigits_toDigits (n : Nat) :
    ofDigits 10 ((Nat.toDigits 10 n).map fun c => c.toNat - 48) = n := by
  rw [ofDigits, ofDigits_eq, Nat.ofDigitChars_ten_toDigits]

theorem exists_digitChar_of_mem {base : Nat} (hbase : 1 < base) (h : c ∈ Nat.toDigits base n) :
    ∃ d < base, c = Nat.digitChar d := by
  induction n using Nat.strongRecOn with
  | ind n ih =>
    rw [Nat.toDigits_eq_if hbase] at h
    split at h
    · next hn => exact ⟨n, hn, List.mem_singleton.1 h⟩
    · next hn =>
      have hpos : 0 < base := by omega
      rcases List.mem_append.1 h with hfront | hlast
      · exact ih (n / base) (Nat.div_lt_self (by omega) hbase) hfront
      · exact ⟨n % base, Nat.mod_lt n hpos, List.mem_singleton.1 hlast⟩

/-- No decimal text but that of zero begins with a zero. -/
theorem head?_toDigits_ne_zero (h : n ≠ 0) : (Nat.toDigits 10 n).head? ≠ some '0' := by
  induction n using Nat.strongRecOn with
  | ind n ih =>
    rw [Nat.toDigits_eq_if (by decide)]
    by_cases hn : n < 10
    · simp [hn, h]
    · have hten : n / 10 ≠ 0 := by omega
      have hne : Nat.toDigits 10 (n / 10) ≠ [] := Nat.toDigits_ne_nil
      obtain ⟨first, rest, hfirst⟩ := List.exists_cons_of_ne_nil hne
      have hhead := ih (n / 10) (by omega) hten
      rw [hfirst] at hhead
      rw [if_neg hn, hfirst]
      exact hhead

theorem natural?_of_head?_ne_zero (h : cs.head? ≠ some '0') :
    natural? cs = (decimalDigits? cs).map (ofDigits 10) := by
  unfold natural?
  split <;> simp_all

theorem natural?_toDigits (h : n < Nat.pow 10 maxDigits) : natural? (Nat.toDigits 10 n) = some n := by
  by_cases hn : n = 0
  · subst hn
    rfl
  · rw [natural?_of_head?_ne_zero (head?_toDigits_ne_zero hn), decimalDigits?_toDigits h,
      Option.map_some, ofDigits_toDigits]

theorem splitSign_of_digits (h : ∀ c ∈ cs, c.isDigit = true) : splitSign cs = (false, cs) := by
  cases cs with
  | nil => rfl
  | cons c rest =>
    have hc := h c List.mem_cons_self
    unfold splitSign
    split
    · simp_all
    · simp_all
    · rfl

/-- The digits of an integer, behind a minus if it is negative. -/
theorem toList_toString (n : Int) :
    (toString n).toList = (if n < 0 then ['-'] else []) ++ Nat.toDigits 10 n.natAbs := by
  cases n with
  | ofNat m =>
    rw [if_neg (by simp)]
    change (Nat.repr m).toList = _
    simp [Nat.repr_eq_ofList_toDigits]
  | negSucc m =>
    rw [if_pos (by simp)]
    change ("-" ++ Nat.repr (m + 1)).toList = _
    simp [Nat.repr_eq_ofList_toDigits, String.toList_append]

/-- What decimal texts are made of. -/
theorem digit_or_minus_of_mem {n : Int} (h : c ∈ (toString n).toList) :
    c.isDigit = true ∨ c = '-' := by
  rw [toList_toString, List.mem_append] at h
  rcases h with h | h
  · split at h <;> simp_all
  · exact .inl (Nat.isDigit_of_mem_toDigits (by decide) (by decide) h)

theorem ascii_of_mem {n : Int} (h : c ∈ (toString n).toList) : c.toNat < 128 := by
  rcases digit_or_minus_of_mem h with hc | rfl
  · have hbounds := isDigit_iff.1 hc
    omega
  · decide

/-- An integer within the digit limit is the value of its decimal text. -/
theorem literal?_toString {n : Int} (h : Writable n) : literal? (toString n).toList = some n := by
  have hdigits : ∀ c ∈ Nat.toDigits 10 n.natAbs, c.isDigit = true :=
    fun c hc => Nat.isDigit_of_mem_toDigits (by decide) (by decide) hc
  have hmagnitude := natural?_toDigits h
  rw [literal?, foldDigits_eq_self fun c hc => ascii_of_mem hc, toList_toString]
  by_cases hn : n < 0
  · have hsplit : splitSign ('-' :: Nat.toDigits 10 n.natAbs) =
        (true, Nat.toDigits 10 n.natAbs) := rfl
    rw [if_pos hn, List.singleton_append, hsplit]
    simp only [hmagnitude, Option.map_some, signed, if_true, Option.some.injEq]
    omega
  · rw [if_neg hn, List.nil_append, splitSign_of_digits hdigits]
    simp only [hmagnitude, Option.map_some, signed, Bool.false_eq_true, if_false, Option.some.injEq]
    omega

end Numeral

namespace Selection

variable {n : Int}

theorem dropSuffix_eq_self {word : List Char} (h : ∀ c ∈ word, isSuffixLetter c = false) :
    dropSuffix word = word := by
  have hstem : word.reverse.dropWhile isSuffixLetter = word.reverse :=
    dropWhile_eq_self fun c hc => h c (List.mem_reverse.1 (List.mem_of_mem_head? hc))
  unfold dropSuffix
  simp only [hstem, List.reverse_reverse]
  split
  · split <;> rfl
  · rfl

/-- No word for on or off is made of digits and minus signs. -/
theorem any_letter_of_mem_words :
    ∀ word ∈ onWords ++ offWords, word.toList.any (fun c => !(c.isDigit || c == '-')) = true := by
  decide

theorem toString_notMem_words (n : Int) : toString n ∉ onWords ++ offWords := by
  intro h
  obtain ⟨c, hc, hletter⟩ := List.any_eq_true.1 (any_letter_of_mem_words _ h)
  have hdigit := digit_or_minus_of_mem hc
  simp_all

/-- A character of a decimal text is no blank, no suffix and no capital letter. -/
theorem numeral_char {c : Char} (h : c.isDigit = true ∨ c = '-') :
    isBlank c = false ∧ isSuffixLetter c = false ∧ c.toLower = c := by
  rcases h with h | rfl
  · have hbounds := isDigit_iff.1 h
    refine ⟨isBlank_eq_false (by omega) (by omega), ?_, ?_⟩
    · rw [isSuffixLetter, Bool.or_eq_false_iff, beq_eq_false_iff_ne, beq_eq_false_iff_ne]
      constructor <;> rintro rfl <;> revert hbounds <;> decide
    · have hsmall : ¬ (65 ≤ c.toNat ∧ c.toNat ≤ 90) := by omega
      exact dif_neg hsmall
  · decide

/-- The text of an integer is read as a literal and never as a word. -/
theorem wordValue?_toString (h : Writable n) : wordValue? (toString n).toList = some (.int n) := by
  have hwords := toString_notMem_words n
  rw [List.mem_append, not_or] at hwords
  have hsuffix : dropSuffix (toString n).toList = (toString n).toList :=
    dropSuffix_eq_self fun c hc => (numeral_char (digit_or_minus_of_mem hc)).2.1
  simp only [wordValue?, String.ofList_toList, List.contains_iff_mem, hwords, if_false, hsuffix,
    literal?_toString h, Option.map_some]

theorem parseValue_toString (h : Writable n) : parseValue (toString n) = .ok (.int n) := by
  have htrim : trim (toString n).toList = (toString n).toList :=
    trim_eq_self fun c hc => (numeral_char (digit_or_minus_of_mem hc)).1
  have hlower : lower (toString n).toList = (toString n).toList := by
    have hid := List.map_congr_left fun c (hc : c ∈ (toString n).toList) =>
      (numeral_char (digit_or_minus_of_mem hc)).2.2
    rwa [List.map_id'] at hid
  simp only [parseValue, htrim, hlower, wordValue?_toString h]

theorem parseName_of_isValid {name source : String} (h : Identifier.isValid name.toList = true) :
    parseName name.toList source = .ok name := by
  have htrim : trim name.toList = name.toList :=
    trim_eq_self fun c hc => Identifier.isBlank_of_isPart (Identifier.isPart_of_mem h hc)
  simp [parseName, htrim, h]

theorem parseUndefine_of_isValid {name : String} (h : Identifier.isValid name.toList = true) :
    parseUndefine name = .ok (name, .bool false) := by
  rw [parseUndefine, parseName_of_isValid h]
  rfl

theorem parseDefine_of_isValid {name : String} (h : Identifier.isValid name.toList = true) :
    parseDefine name = .ok (name, .bool true) := by
  simp only [parseDefine, splitFirst_of_notMem (Identifier.equals_notMem h), parseName_of_isValid h]
  rfl

/-- A definition with a number is parsed back. -/
theorem parseDefine_number {name : String} (h : Identifier.isValid name.toList = true)
    (hn : Writable n) : parseDefine (name ++ "=" ++ toString n) = .ok (name, .int n) := by
  have hsplit : splitFirst '=' (name ++ "=" ++ toString n).toList =
      (name.toList, some (toString n).toList) := by
    rw [String.toList_append, String.toList_append, List.append_assoc]
    exact splitFirst_append _ (Identifier.equals_notMem h)
  simp only [parseDefine, hsplit, parseName_of_isValid h, String.ofList_toList,
    parseValue_toString hn]
  rfl

end Selection
end FeatureCert
