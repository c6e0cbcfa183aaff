import FeatureCert.Proofs.Outcomes
import FeatureCert.Proofs.Zeros

/-!
Integer literals as a grammar. A reader of literals takes a text exactly if the grammar derives it, and
gives the number that the derivation does: digits in one base, single underscores between them, a mark in
front for the bases but ten, and a sign or none before it all.
-/
namespace FeatureCert.Numeral

open FeatureCert.Text

/-- A character is the digit `d` of a base, as a capital or a small letter beyond nine. -/
def IsDigit (base : Nat) (c : Char) (d : Nat) : Prop :=
  d < base ∧ c.toLower = Nat.digitChar d

/-- Digits of a base, with single underscores between them. -/
inductive Grouped (base : Nat) : List Char → List Nat → Prop where
  | last (h : IsDigit base c d) : Grouped base [c] [d]
  | next (h : IsDigit base c d) (hrest : Grouped base cs ds) : Grouped base (c :: cs) (d :: ds)
  | score (h : IsDigit base c d) (hrest : Grouped base cs ds) : Grouped base (c :: '_' :: cs) (d :: ds)

/-- Literals without a sign: digits behind a mark of their base, which one underscore may follow, or decimal
digits that are not refused. -/
inductive Magnitude : List Char → Nat → Prop where
  | marked (hmark : mark ∈ baseMarks base) (hscore : score = [] ∨ score = ['_'])
      (h : Grouped base cs ds) : Magnitude ('0' :: mark :: (score ++ cs)) (ofDigits base ds)
  | decimal (h : Grouped 10 cs ds) (hgood : ¬ Refused ds) : Magnitude cs (ofDigits 10 ds)

/-- Integer literals with the numbers that they denote. -/
inductive IsLiteral : List Char → Int → Prop where
  | plain (h : Magnitude cs n) : IsLiteral cs n
  | plus (h : Magnitude cs n) : IsLiteral ('+' :: cs) n
  | minus (h : Magnitude cs n) : IsLiteral ('-' :: cs) (-n)

variable {base d n : Nat} {c mark : Char} {cs : List Char} {ds : List Nat}

theorem digitIn?_table :
    ∀ code < 128, ∀ d < 16, digitIn? 16 (Char.ofNat code) = some d ↔
      (Char.ofNat code).toLower = Nat.digitChar d := by
  decide +kernel

theorem toNat_digitChar_lt : ∀ d < 16, (Nat.digitChar d).toNat < 128 := by
  decide

theorem toLower_of_not_ascii (h : 128 ≤ c.toNat) : c.toLower = c := by
  have hsmall : ¬ (65 ≤ c.toNat ∧ c.toNat ≤ 90) := by omega
  exact dif_neg hsmall

theorem digitIn?_eq_some_iff_sixteen (hbase : base ≤ 16) :
    digitIn? base c = some d ↔ d < base ∧ digitIn? 16 c = some d := by
  simp only [digitIn?, Option.filter_eq_some_iff, decide_eq_true_eq]
  constructor
  · rintro ⟨hvalue, hd⟩
    exact ⟨hd, hvalue, by omega⟩
  · rintro ⟨hd, hvalue, _⟩
    exact ⟨hvalue, hd⟩

/-- Digits of a base are those of base sixteen below it. -/
theorem digitIn?_eq_some_iff (hbase : base ≤ 16) : digitIn? base c = some d ↔ IsDigit base c d := by
  rw [digitIn?_eq_some_iff_sixteen hbase, IsDigit]
  apply and_congr_right
  intro hd
  by_cases hascii : c.toNat < 128
  · have htable := digitIn?_table c.toNat hascii d (by omega)
    rwa [Char.ofNat_toNat] at htable
  · refine iff_of_false (fun h => hascii (digitIn?_cases h).1) ?_
    rw [toLower_of_not_ascii (by omega)]
    intro he
    have hdigit := toNat_digitChar_lt d (by omega)
    rw [← he] at hdigit
    exact hascii hdigit

theorem IsDigit.ne_underscore (h : IsDigit base c d) (hbase : base ≤ 16) : c ≠ '_' := by
  rintro rfl
  have hvalue := (digitIn?_eq_some_iff hbase).2 h
  rw [digitIn?_underscore] at hvalue
  cases hvalue

theorem groupedDigits_cons (hbase : base ≤ 16) (h : IsDigit base c d) (more : Bool) (cs : List Char) :
    groupedDigits base more (c :: cs) = (groupedDigits base true cs).map (d :: ·) := by
  have hmark : (c == '_') = false := by simpa using h.ne_underscore hbase
  rw [groupedDigits, hmark, (digitIn?_eq_some_iff hbase).2 h]
  cases groupedDigits base true cs <;> rfl

/-- Single underscores between digits are passed over. -/
theorem Grouped.groupedDigits_eq (hbase : base ≤ 16) (h : Grouped base cs ds) (more : Bool) :
    groupedDigits base more cs = some ds := by
  induction h generalizing more with
  | last h =>
    rw [groupedDigits_cons hbase h]
    rfl
  | next h _ ih => rw [groupedDigits_cons hbase h, ih, Option.map_some]
  | score h _ ih =>
    rw [groupedDigits_cons hbase h]
    change (groupedDigits base false _).map _ = _
    rw [ih, Option.map_some]

/-- Behind a digit the reader takes no more, an underscore and digits, or digits; else it takes digits. -/
theorem grouped_of_groupedDigits (hbase : base ≤ 16) {more : Bool}
    (h : groupedDigits base more cs = some ds) :
    (more = true → ∀ c d, IsDigit base c d → Grouped base (c :: cs) (d :: ds)) ∧
      (more = false → Grouped base cs ds) := by
  fun_induction groupedDigits base more cs generalizing ds with
  | case1 =>
    cases h
    exact ⟨fun _ c d hd => .last hd, nofun⟩
  | case2 => cases h
  | case3 c rest hscore ih =>
    cases eq_of_beq hscore
    exact ⟨fun _ c d hd => .score hd ((ih h).2 rfl), nofun⟩
  | case4 => cases h
  | case5 more c rest hplain ih =>
    obtain ⟨d, hd, h⟩ := Option.bind_eq_some_iff.1 h
    obtain ⟨rest', hrest, h⟩ := Option.bind_eq_some_iff.1 h
    cases h
    have hdigits : Grouped base (c :: rest) (d :: rest') :=
      (ih hrest).1 rfl c d ((digitIn?_eq_some_iff hbase).1 hd)
    exact ⟨fun _ b e he => .next he hdigits, fun _ => hdigits⟩

theorem groupedDigits_eq_some_iff (hbase : base ≤ 16) :
    groupedDigits base false cs = some ds ↔ Grouped base cs ds :=
  ⟨fun h => (grouped_of_groupedDigits hbase h).2 rfl, fun h => h.groupedDigits_eq hbase false⟩

/-- Digits begin with the digit that their values begin with. -/
theorem Grouped.head (h : Grouped base cs ds) :
    ∃ c d, cs.head? = some c ∧ ds.head? = some d ∧ IsDigit base c d := by
  cases h with
  | last h => exact ⟨_, _, rfl, rfl, h⟩
  | next h _ => exact ⟨_, _, rfl, rfl, h⟩
  | score h _ => exact ⟨_, _, rfl, rfl, h⟩

theorem Grouped.mem (h : Grouped base cs ds) (hc : c ∈ cs) : c = '_' ∨ ∃ d, IsDigit base c d := by
  induction h with
  | last h => exact .inr ⟨_, by rwa [List.mem_singleton.1 hc]⟩
  | next h _ ih =>
    rcases List.mem_cons.1 hc with rfl | hc
    · exact .inr ⟨_, h⟩
    · exact ih hc
  | score h _ ih =>
    rcases List.mem_cons.1 hc with rfl | hc
    · exact .inr ⟨_, h⟩
    · rcases List.mem_cons.1 hc with rfl | hc
      · exact .inl rfl
      · exact ih hc

theorem mem_baseMarks_iff :
    mark ∈ baseMarks base ↔ base = 2 ∧ (mark = 'b' ∨ mark = 'B') ∨
      base = 8 ∧ (mark = 'o' ∨ mark = 'O') ∨ base = 16 ∧ (mark = 'x' ∨ mark = 'X') := by
  unfold baseMarks
  split <;> simp_all

theorem le_of_mem_baseMarks (h : mark ∈ baseMarks base) : base ≤ 16 := by
  rcases mem_baseMarks_iff.1 h with ⟨rfl, _⟩ | ⟨rfl, _⟩ | ⟨rfl, _⟩ <;> decide

/-- Behind a mark one underscore may stand before the digits. -/
theorem afterMark?_eq_some_iff (hbase : base ≤ 16) :
    afterMark? base cs = some n ↔ ∃ score digits ds, cs = score ++ digits ∧ (score = [] ∨ score = ['_']) ∧
      Grouped base digits ds ∧ n = ofDigits base ds := by
  constructor
  · intro h
    obtain ⟨ds, hds, rfl⟩ := Option.map_eq_some_iff.1 h
    have hgrouped := (groupedDigits_eq_some_iff hbase).1 hds
    by_cases hscore : cs.head? = some '_'
    · obtain ⟨rest, rfl⟩ := List.head?_eq_some_iff.1 hscore
      exact ⟨['_'], rest, ds, rfl, .inr rfl, hgrouped, rfl⟩
    · have hbeq : (cs.head? == some '_') = false := by simpa using hscore
      simp only [hbeq] at hgrouped
      exact ⟨[], cs, ds, rfl, .inl rfl, hgrouped, rfl⟩
  · rintro ⟨score, digits, ds, rfl, hscore, hgrouped, rfl⟩
    have hdigits := hgrouped.groupedDigits_eq hbase false
    rcases hscore with rfl | rfl
    · obtain ⟨c, _, hc, _, hdigit⟩ := hgrouped.head
      have hbeq : (digits.head? == some '_') = false := by
        simpa [hc] using hdigit.ne_underscore hbase
      simp [afterMark?, hbeq, hdigits]
    · simp [afterMark?, hdigits]

theorem IsDigit.notMem_allMarks (h : IsDigit 10 c d) : c ∉ allMarks := by
  intro hmark
  have hvalue := (digitIn?_eq_some_iff (by decide)).2 h
  revert hvalue
  have hnone : ∀ c ∈ allMarks, digitIn? 10 c = none := by simp [allMarks, digitIn?]
  simp [hnone c hmark]

theorem IsDigit.eq_zero_iff (h : IsDigit 10 c d) : c = '0' ↔ d = 0 :=
  (digitIn?_cases ((digitIn?_eq_some_iff (by decide)).2 h)).2.symm

/-- Decimal digits are a literal of the number that they denote, unless they are refused. -/
theorem natural?_of_grouped (h : Grouped 10 cs ds) :
    natural? cs = if Refused ds then none else some (ofDigits 10 ds) := by
  refine natural?_of_decimal ?_ (h.groupedDigits_eq (by decide) false) ?_
  · intro c hc
    rcases h.mem hc with rfl | ⟨d, hd⟩
    · decide
    · exact hd.notMem_allMarks
  · obtain ⟨c, d, hc, hd, hdigit⟩ := h.head
    rw [hc, hd, Option.some.injEq, Option.some.injEq, hdigit.eq_zero_iff]

/-- The mark tells the base in which the digits behind it are read. -/
theorem natural?_of_mark (hmark : mark ∈ baseMarks base) (cs : List Char) :
    natural? ('0' :: mark :: cs) = afterMark? base cs := by
  rcases mem_baseMarks_iff.1 hmark with ⟨rfl, rfl | rfl⟩ | ⟨rfl, rfl | rfl⟩ | ⟨rfl, rfl | rfl⟩ <;> rfl

theorem magnitude_of_afterMark? (hmark : mark ∈ baseMarks base) (h : afterMark? base cs = some n) :
    Magnitude ('0' :: mark :: cs) n := by
  obtain ⟨score, digits, ds, rfl, hscore, hgrouped, rfl⟩ :=
    (afterMark?_eq_some_iff (le_of_mem_baseMarks hmark)).1 h
  exact .marked hmark hscore hgrouped

theorem magnitude_of_decimalDigits? (hdigits : decimalDigits? cs = some ds) (h : natural? cs = some n) :
    Magnitude cs n := by
  have hgrouped := (groupedDigits_eq_some_iff (by decide)).1 (Option.filter_eq_some_iff.1 hdigits).1
  rw [natural?_of_grouped hgrouped] at h
  split at h
  · cases h
  · next hgood =>
    cases h
    exact .decimal hgrouped hgood

/-- Literals without a sign are read by their mark, or in base ten. -/
theorem natural?_eq_some_iff : natural? cs = some n ↔ Magnitude cs n := by
  constructor
  · intro h
    have hread := h
    unfold natural? at hread
    split at hread
    case h_7 =>
      obtain ⟨value, hvalue, _⟩ := Option.bind_eq_some_iff.1 hread
      obtain ⟨ds, hds, _⟩ := Option.map_eq_some_iff.1 hvalue
      exact magnitude_of_decimalDigits? hds h
    case h_8 =>
      obtain ⟨ds, hds, _⟩ := Option.map_eq_some_iff.1 hread
      exact magnitude_of_decimalDigits? hds h
    -- behind a mark
    all_goals exact magnitude_of_afterMark? (by decide) hread
  · intro h
    cases h with
    | marked hmark hscore hgrouped =>
      rw [natural?_of_mark hmark]
      exact (afterMark?_eq_some_iff (le_of_mem_baseMarks hmark)).2 ⟨_, _, _, rfl, hscore, hgrouped, rfl⟩
    | decimal hgrouped hgood => rw [natural?_of_grouped hgrouped, if_neg hgood]

theorem Magnitude.head (h : Magnitude cs n) : ∃ c ∈ cs.head?, c ≠ '+' ∧ c ≠ '-' := by
  cases h with
  | marked hmark hscore hgrouped => exact ⟨'0', rfl, by decide, by decide⟩
  | decimal hgrouped hgood =>
    obtain ⟨c, d, hc, _, hdigit⟩ := hgrouped.head
    refine ⟨c, hc, ?_, ?_⟩ <;> rintro rfl <;>
      exact absurd ((digitIn?_eq_some_iff (by decide)).2 hdigit) (by simp [digitIn?])

theorem splitSign_of_head (h : ∃ c ∈ cs.head?, c ≠ '+' ∧ c ≠ '-') : splitSign cs = (false, cs) := by
  obtain ⟨c, hc, hplus, hminus⟩ := h
  obtain ⟨rest, rfl⟩ := List.head?_eq_some_iff.1 hc
  unfold splitSign
  split
  · simp_all
  · simp_all
  · rfl

/-- Reading a literal in ASCII is deriving it. -/
theorem literal?_eq_some_iff {number : Int} (hascii : ∀ c ∈ cs, c.toNat < 128) :
    literal? cs = some number ↔ IsLiteral cs number := by
  rw [literal?, foldDigits_eq_self hascii]
  constructor
  · intro h
    cases hsign : splitSign cs with
    | mk negative rest =>
      rw [hsign] at h
      obtain ⟨n, hn, rfl⟩ := Option.map_eq_some_iff.1 h
      have hmagnitude := natural?_eq_some_iff.1 hn
      unfold splitSign at hsign
      split at hsign
      · cases hsign
        exact .minus hmagnitude
      · cases hsign
        exact .plus hmagnitude
      · cases hsign
        exact .plain hmagnitude
  · intro h
    cases h with
    | plain h =>
      rw [splitSign_of_head h.head]
      simp [natural?_eq_some_iff.2 h, signed]
    | plus h => simp [splitSign, natural?_eq_some_iff.2 h, signed]
    | minus h => simp [splitSign, natural?_eq_some_iff.2 h, signed]

section Digits

variable {body sign : List Char}

/-- Digits without underscores are grouped digits. -/
theorem grouped_of_forall₂ (hne : body ≠ []) (h : List.Forall₂ (IsDigit base) body ds) :
    Grouped base body ds := by
  induction h with
  | nil => exact absurd rfl hne
  | @cons c d rest ds hdigit hrest ih =>
    cases hrest with
    | nil => exact .last hdigit
    | cons h hrest => exact .next hdigit (ih (List.cons_ne_nil _ _))

theorem toLower_digitChar : ∀ d < 16, (Nat.digitChar d).toLower = Nat.digitChar d := by
  decide

/-- A digit in lower case is the same digit. -/
theorem IsDigit.toLower (h : IsDigit base c d) (hbase : base ≤ 16) : IsDigit base c.toLower d := by
  obtain ⟨hd, hc⟩ := h
  exact ⟨hd, by rw [hc, toLower_digitChar d (by omega)]⟩

theorem forall₂_isDigit_lower (hbase : base ≤ 16) (h : List.Forall₂ (IsDigit base) body ds) :
    List.Forall₂ (IsDigit base) (lower body) ds :=
  List.forall₂_map_left_iff.2 (h.imp fun _ _ hdigit => hdigit.toLower hbase)

theorem exists_isDigit (h : List.Forall₂ (IsDigit base) body ds) (hc : c ∈ body) : ∃ d, IsDigit base c d := by
  obtain ⟨d, _, hdigit⟩ := exists_of_mem_forall₂ h.flip hc
  exact ⟨d, hdigit⟩

theorem IsDigit.isDigit (h : IsDigit 10 c d) : c.isDigit = true := by
  obtain ⟨hvalue, hd⟩ := Option.filter_eq_some_iff.1 ((digitIn?_eq_some_iff (by decide)).2 h)
  simp only [Bool.and_eq_true, decide_eq_true_eq] at hvalue hd
  rw [isDigit_iff]
  split at hvalue
  · assumption
  -- a letter stands for ten or more
  · split at hvalue
    · cases hvalue
      omega
    · split at hvalue
      · cases hvalue
        omega
      · cases hvalue

/-- Decimal digits with a sign or none are read as the integer that they denote, unless they are refused. -/
theorem literal?_of_digits (hsign : sign = [] ∨ sign = ['-']) (hne : body ≠ [])
    (h : List.Forall₂ (IsDigit 10) body ds) : literal? (sign ++ body) =
      if Refused ds then none else some (signed (!sign.isEmpty) (ofDigits 10 ds)) := by
  have hdigits : ∀ c ∈ body, c.isDigit = true := by
    intro c hc
    obtain ⟨d, hdigit⟩ := exists_isDigit h hc
    exact hdigit.isDigit
  have hascii : ∀ c ∈ sign ++ body, c.toNat < 128 := by
    intro c hc
    rcases List.mem_append.1 hc with hc | hc
    · rcases hsign with rfl | rfl
      · cases hc
      · cases List.mem_singleton.1 hc
        decide
    · have hbounds := isDigit_iff.1 (hdigits c hc)
      omega
  rw [literal?, foldDigits_eq_self hascii, splitSign_append hsign hdigits]
  dsimp only
  rw [natural?_of_grouped (grouped_of_forall₂ hne h)]
  split <;> rfl

/-- Hexadecimal digits behind a mark are read as the integer that they denote. -/
theorem literal?_of_marked (hmark : mark = 'x' ∨ mark = 'X') (hne : body ≠ [])
    (h : List.Forall₂ (IsDigit 16) body ds) :
    literal? ('0' :: mark :: body) = some (ofDigits 16 ds : Nat) := by
  have hliteral : IsLiteral ('0' :: mark :: ([] ++ body)) (ofDigits 16 ds : Nat) :=
    .plain (.marked (mem_baseMarks_iff.2 (.inr (.inr ⟨rfl, hmark⟩))) (.inl rfl) (grouped_of_forall₂ hne h))
  rw [List.nil_append] at hliteral
  refine (literal?_eq_some_iff ?_).2 hliteral
  simp only [List.forall_mem_cons]
  refine ⟨by decide, by rcases hmark with rfl | rfl <;> decide, fun c hc => ?_⟩
  obtain ⟨d, hdigit⟩ := exists_isDigit h hc
  exact (digitIn?_cases ((digitIn?_eq_some_iff (by decide)).2 hdigit)).1

end Digits

end FeatureCert.Numeral
