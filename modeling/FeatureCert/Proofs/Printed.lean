import FeatureCert.Text.Control

/-!
Texts as they are printed, line by line. No sequence that steers a terminal goes over the end of a line, so
that a printed text has the lines of its parts.
-/
namespace FeatureCert.Text

variable {cs rest : List Char} {c : Char} {n skip : Nat} {a b : String} {parts : List String}

theorem dropWhile_append_break {p : Char → Bool} (h : p '\n' = false) :
    (cs ++ '\n' :: rest).dropWhile p = cs.dropWhile p ++ '\n' :: rest := by
  induction cs with
  | nil => simp [h]
  | cons c cs ih => by_cases hc : p c = true <;> simp [hc, ih]

theorem sequenceLength?_of_ne (h : ∀ more, cs ≠ '\x1b' :: '[' :: more) :
    sequenceLength? cs = none := by
  unfold sequenceLength?
  split
  · exact absurd rfl (h _)
  · rfl

/-- The end of a line is no part of a sequence. -/
theorem sequenceLength?_append_break (cs rest : List Char) :
    sequenceLength? (cs ++ '\n' :: rest) = sequenceLength? cs := by
  by_cases hstart : ∃ more, cs = '\x1b' :: '[' :: more
  · obtain ⟨more, rfl⟩ := hstart
    simp only [List.cons_append, sequenceLength?]
    rw [dropWhile_append_break (by decide), dropWhile_append_break (by decide)]
    cases (more.dropWhile isParameter).dropWhile isMark with
    | nil => simp [isFinal]
    | cons d last =>
      have hlength : (more ++ '\n' :: rest).length + 1 + 1 - (last ++ '\n' :: rest).length =
          more.length + 1 + 1 - last.length := by
        rw [List.length_append, List.length_append]
        omega
      simp only [List.cons_append, List.length_cons, hlength]
  · rw [not_exists] at hstart
    rw [sequenceLength?_of_ne hstart]
    apply sequenceLength?_of_ne
    intro more he
    match cs with
    | [] => cases he
    | [c] => cases he
    | c :: d :: cs =>
      cases he
      exact hstart _ rfl

theorem sequenceLength?_bounds (h : sequenceLength? cs = some n) : 0 < n ∧ n ≤ cs.length := by
  unfold sequenceLength? at h
  split at h
  · next more =>
    dsimp only at h
    split at h
    · next d last hlast =>
      have hlength : last.length < more.length := by
        have hsuffix : (d :: last) <:+ more :=
          hlast ▸ (List.dropWhile_suffix _).trans (List.dropWhile_suffix _)
        exact hsuffix.length_le
      split at h
      · cases h
        simp only [List.length_cons]
        omega
      · cases h
    · cases h
  · cases h

/-- What is dropped of a text up to the end of a line does not depend on what follows. -/
theorem dropFrom_append_break (hskip : skip ≤ cs.length) :
    dropFrom skip (cs ++ '\n' :: rest) = dropFrom skip cs ++ '\n' :: dropFrom 0 rest := by
  -- For any number of characters still to skip: a sequence is over before its line is, so the break is
  -- reached with none.
  induction cs generalizing skip with
  | nil =>
    obtain rfl : skip = 0 := by simpa using hskip
    rfl
  | cons c cs ih =>
    cases skip with
    | succ n => exact ih (Nat.le_of_succ_le_succ hskip)
    | zero =>
      have hsame := sequenceLength?_append_break (c :: cs) rest
      rw [List.cons_append] at hsame ⊢
      rw [dropFrom, dropFrom, hsame]
      cases hlength : sequenceLength? (c :: cs) with
      | none => simp [ih]
      | some n =>
        have hbounds := sequenceLength?_bounds hlength
        rw [List.length_cons] at hbounds
        exact ih (by omega)

theorem dropSequences_break (a b : String) :
    dropSequences (a ++ "\n" ++ b) = dropSequences a ++ "\n" ++ dropSequences b := by
  apply String.toList_injective
  simp [dropSequences, dropFrom_append_break]

/-- A text without the character that begins a sequence is printed as it is. -/
theorem dropFrom_of_plain (h : '\x1b' ∉ cs) : dropFrom 0 cs = cs := by
  induction cs with
  | nil => rfl
  | cons c cs ih =>
    have hnone : sequenceLength? (c :: cs) = none := by
      apply sequenceLength?_of_ne
      rintro more ⟨⟩
      exact h List.mem_cons_self
    rw [dropFrom, hnone]
    simp [ih fun hmem => h (List.mem_cons_of_mem _ hmem)]

/-- A line of the text begins with the words that tell of an acceptance. -/
def Announces (text : String) : Prop :=
  ∃ line ∈ text.toList.splitOn '\n', "configuration accepted".toList <+: line

instance (text : String) : Decidable (Announces text) :=
  List.decidableBEx _ (text.toList.splitOn '\n')

theorem splitOn_break (a b : String) : (a ++ "\n" ++ b).toList.splitOn '\n' =
    a.toList.splitOn '\n' ++ b.toList.splitOn '\n' := by
  rw [← List.splitOn_append_cons_self]
  simp

theorem announces_break : Announces (a ++ "\n" ++ b) ↔ Announces a ∨ Announces b := by
  simp only [Announces, splitOn_break, List.mem_append, or_and_right, exists_or]

theorem hasHalf_append (a b : String) : hasHalf (a ++ b) = (hasHalf a || hasHalf b) := by
  simp [hasHalf]

/-- Lines that are printed under each other announce what one of them does. -/
theorem announces_intercalate (h : parts ≠ []) :
    Announces (dropSequences ("\n".intercalate parts)) ↔
      ∃ part ∈ parts, Announces (dropSequences part) := by
  induction parts with
  | nil => exact absurd rfl h
  | cons part more ih =>
    cases more with
    | nil => simp
    | cons next last =>
      rw [String.intercalate_cons_cons, dropSequences_break, announces_break, ih (by simp)]
      simp

/-- No control sequence reaches over a line break, so that lines can be looked at one by one. -/
theorem hasHalf_intercalate (h : parts ≠ []) :
    hasHalf (dropSequences ("\n".intercalate parts)) = false ↔
      ∀ part ∈ parts, hasHalf (dropSequences part) = false := by
  induction parts with
  | nil => exact absurd rfl h
  | cons part more ih =>
    cases more with
    | nil => simp
    | cons next last =>
      have hbreak : hasHalf "\n" = false := rfl
      rw [String.intercalate_cons_cons, dropSequences_break, hasHalf_append, hasHalf_append, hbreak,
        Bool.or_false, Bool.or_eq_false_iff, ih (by simp)]
      simp

theorem dropSequences_line (a : String) : dropSequences (a ++ "\n") = dropSequences a ++ "\n" := by
  simpa using dropSequences_break a ""

theorem not_announces_empty : ¬ Announces "" := by
  rintro ⟨line, hline, hprefix⟩
  rw [show line = [] by simpa using hline] at hprefix
  cases List.prefix_nil.1 hprefix

theorem announces_line : Announces (a ++ "\n") ↔ Announces a := by
  simpa [not_announces_empty] using announces_break (a := a) (b := "")

/-- A text that holds neither controls nor anything beyond ASCII. -/
def IsPlain (text : String) : Prop := ∀ c ∈ text.toList, 32 ≤ c.toNat ∧ c.toNat < 128

instance (text : String) : Decidable (IsPlain text) := List.decidableBAll _ text.toList

theorem isPlain_append : IsPlain (a ++ b) ↔ IsPlain a ∧ IsPlain b := by
  simp only [IsPlain, String.toList_append, List.forall_mem_append]

theorem IsPlain.append (ha : IsPlain a) (hb : IsPlain b) : IsPlain (a ++ b) := isPlain_append.2 ⟨ha, hb⟩

theorem isPlain_toString (n : Nat) : IsPlain (toString n) := by
  intro c hc
  have htext : (toString n).toList = Nat.toDigits 10 n := by
    change (Nat.repr n).toList = _
    simp [Nat.repr_eq_ofList_toDigits]
  rw [htext] at hc
  have hdigit : c.isDigit = true := Nat.isDigit_of_mem_toDigits (by decide) (by decide) hc
  have hbounds : 48 ≤ c.toNat ∧ c.toNat ≤ 57 := Char.isDigit_iff_toNat.1 hdigit
  omega

theorem IsPlain.dropSequences_eq (h : IsPlain a) : dropSequences a = a := by
  have hescape : '\x1b' ∉ a.toList := fun hmem => absurd (h _ hmem).1 (by decide)
  rw [dropSequences, dropFrom_of_plain hescape, String.ofList_toList]

theorem IsPlain.hasHalf_eq_false (h : IsPlain a) : hasHalf a = false := by
  rw [hasHalf, List.any_eq_false]
  intro c hc hhalf
  have hbound := (h c hc).2
  have hstart : halfStart ≤ c.toNat := of_decide_eq_true (Bool.and_eq_true_iff.1 hhalf).1
  rw [halfStart] at hstart
  omega

/-- A plain text is one line. -/
theorem IsPlain.announces_iff (h : IsPlain a) :
    Announces a ↔ "configuration accepted".toList <+: a.toList := by
  have hbreak : '\n' ∉ a.toList := fun hmem => absurd (h _ hmem).1 (by decide)
  rw [Announces, List.splitOn_eq_singleton hbreak]
  simp

end FeatureCert.Text
