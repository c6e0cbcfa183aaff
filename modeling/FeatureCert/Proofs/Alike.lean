import FeatureCert.Proofs.HeaderLines
import FeatureCert.Proofs.Worded

/-!
One literal, two readers. A header and a definition on the command line have grammars of their own for
numbers: one drops comments and keeps capitals, the other drops a suffix by the digit before it. On a literal
that C has, they come to the same integer, or neither comes to any.
-/
namespace FeatureCert.Selection

open FeatureCert.Text FeatureCert.Numeral

/-- C literals with suffix letters, and the integer that the digits denote in their base; a decimal literal
that is refused has none. -/
inductive Denotes : List Char → Option Int → Prop where
  | hexadecimal {mark : Char} {body suffix : List Char} {digits : List Nat} (hmark : mark = 'x' ∨ mark = 'X')
      (hne : body ≠ []) (hbody : List.Forall₂ (IsDigit 16) body digits)
      (hsuffix : ∀ c ∈ suffix, isSuffix c = true) :
      Denotes ('0' :: mark :: (body ++ suffix)) (some (ofDigits 16 digits))
  | decimal {sign body suffix : List Char} {digits : List Nat} (hsign : sign = [] ∨ sign = ['-'])
      (hne : body ≠ []) (hbody : List.Forall₂ (IsDigit 10) body digits)
      (hsuffix : ∀ c ∈ suffix, isSuffix c = true) :
      Denotes (sign ++ (body ++ suffix))
        (if Refused digits then none else some (signed (!sign.isEmpty) (ofDigits 10 digits)))

/-- A comment behind a replacement text, or none. -/
inductive Remark : List Char → Prop where
  | none : Remark []
  | line (body : List Char) : Remark ('/' :: '/' :: body)
  | block {body : List Char} (h : ¬ ['*', '/'] <:+: body) : Remark ('/' :: '*' :: (body ++ ['*', '/']))

/-- A line that defines a name as a text, between blanks and with a comment or none behind it. -/
inductive DefinedAs : List Char → List Char → List Char → Prop where
  | intro {line name gap text blanks remark : List Char} (hgap : ∀ c ∈ gap, isBlank c = true)
      (hblanks : ∀ c ∈ blanks, isBlank c = true) (hremark : Remark remark)
      (h : Toggles line ⟨String.ofList name, some (gap ++ (text ++ (blanks ++ remark)))⟩) :
      DefinedAs line name text

variable {literal line name body suffix sign cs rest : List Char} {digits : List Nat} {number : Option Int}
  {base d : Nat} {c : Char} {lead key text : String} {pairs : List (String × Value)}

section Comments

theorem dropComments_cons (h : c ≠ '/') : dropComments (c :: cs) = c :: dropComments cs := by
  rw [dropComments.eq_4]
  · rintro _ rfl
    exact absurd rfl h
  · rintro _ rfl
    exact absurd rfl h

theorem dropComments_append (h : '/' ∉ cs) : dropComments (cs ++ rest) = cs ++ dropComments rest := by
  induction cs with
  | nil => rfl
  | cons c cs ih =>
    rw [List.mem_cons, not_or] at h
    rw [List.cons_append, dropComments_cons (Ne.symm h.1), ih h.2, List.cons_append]

/-- A comment is dropped up to the first mark that closes it. -/
theorem inside_append (h : ¬ ['*', '/'] <:+: body) :
    dropComments.inside (body ++ '*' :: '/' :: rest) = dropComments rest := by
  induction body with
  | nil => rfl
  | cons c body ih =>
    have hrest : ¬ ['*', '/'] <:+: body := fun hin => h (hin.trans (List.infix_cons (List.infix_refl body)))
    rw [List.cons_append, dropComments.inside.eq_3, ih hrest]
    rintro tail rfl htail
    -- the slash of a closing mark would stand in the body
    cases body with
    | nil => cases htail
    | cons d body =>
      cases htail
      exact h ⟨[], body, rfl⟩

theorem Remark.dropComments_eq (h : Remark cs) : dropComments cs = [] := by
  cases h with
  | none => rfl
  | line body => rfl
  | block h => exact inside_append h

end Comments

theorem isAlphanum_digit_table :
    ∀ code < 128, (digitIn? 16 (Char.ofNat code)).isSome = true → (Char.ofNat code).isAlphanum = true := by
  decide +kernel

theorem isAlphanum_of_isDigit (hbase : base ≤ 16) (h : IsDigit base c d) : c.isAlphanum = true := by
  have hvalue : digitIn? 16 c = some d :=
    ((digitIn?_eq_some_iff_sixteen hbase).1 ((digitIn?_eq_some_iff hbase).2 h)).2
  have htable := isAlphanum_digit_table c.toNat (digitIn?_cases hvalue).1
  rw [Char.ofNat_toNat, hvalue] at htable
  exact htable rfl

theorem isAlphanum_of_isSuffix (h : isSuffix c = true) : c.isAlphanum = true := by
  simp only [isSuffix, Bool.or_eq_true, beq_iff_eq] at h
  rcases h with ((rfl | rfl) | rfl) | rfl <;> decide

theorem isAlphanum_of_mem (hbase : base ≤ 16) (hbody : List.Forall₂ (IsDigit base) body digits)
    (hsuffix : ∀ c ∈ suffix, isSuffix c = true) (hc : c ∈ body ++ suffix) : c.isAlphanum = true := by
  rcases List.mem_append.1 hc with hc | hc
  · obtain ⟨d, hdigit⟩ := exists_isDigit hbody hc
    exact isAlphanum_of_isDigit hbase hdigit
  · exact isAlphanum_of_isSuffix (hsuffix c hc)

/-- A literal is made of letters, digits and a minus. -/
theorem Denotes.char (h : Denotes literal number) (hc : c ∈ literal) : c.isAlphanum = true ∨ c = '-' := by
  cases h with
  | hexadecimal hmark _ hbody hsuffix =>
    left
    rcases List.mem_cons.1 hc with rfl | hc
    · decide
    · rcases List.mem_cons.1 hc with rfl | hc
      · rcases hmark with rfl | rfl <;> decide
      · exact isAlphanum_of_mem (by decide) hbody hsuffix hc
  | decimal hsign _ hbody hsuffix =>
    rcases List.mem_append.1 hc with hc | hc
    · rcases hsign with rfl | rfl
      · cases hc
      · exact .inr (List.mem_singleton.1 hc)
    · exact .inl (isAlphanum_of_mem (by decide) hbody hsuffix hc)

theorem Denotes.isBlank_eq_false (h : Denotes literal number) (hc : c ∈ literal) : isBlank c = false := by
  rcases h.char hc with hword | rfl
  · refine Identifier.isBlank_of_isPart ?_
    rw [Identifier.isPart, hword, Bool.true_or]
  · decide

theorem Denotes.slash_notMem (h : Denotes literal number) : '/' ∉ literal := by
  intro hc
  rcases h.char hc with hword | hminus
  · revert hword
    decide
  · cases hminus

section Header

/-- A header's reader finds the digits of a literal and reads them as what they denote. -/
theorem Denotes.exists_splits (h : Denotes literal number) :
    ∃ digits, Splits literal digits ∧ literal? digits = number := by
  cases h with
  | hexadecimal hmark hne hbody hsuffix =>
    refine ⟨_, .hexadecimal hmark hne (fun c hc => ?_) hsuffix, literal?_of_marked hmark hne hbody⟩
    obtain ⟨d, hdigit⟩ := exists_isDigit hbody hc
    rw [isHexDigit, (digitIn?_eq_some_iff (by decide)).2 hdigit]
    rfl
  | decimal hsign hne hbody hsuffix =>
    refine ⟨_, .decimal hsign hne (fun c hc => ?_) hsuffix, literal?_of_digits hsign hne hbody⟩
    obtain ⟨d, hdigit⟩ := exists_isDigit hbody hc
    rw [isDecimalDigit, digitValue?_of_isDigit hdigit.isDigit]
    rfl

/-- What is read of a header line is the literal itself, whatever blanks and comment stand around it. -/
theorem Denotes.trim_dropComments {gap blanks remark : List Char} (h : Denotes literal number)
    (hgap : ∀ c ∈ gap, isBlank c = true) (hblanks : ∀ c ∈ blanks, isBlank c = true)
    (hremark : Remark remark) :
    trim (dropComments (gap ++ (literal ++ (blanks ++ remark)))) = literal := by
  have hslash {cs : List Char} (hcs : ∀ c ∈ cs, isBlank c = true) : '/' ∉ cs :=
    fun hc => absurd (hcs '/' hc) (by decide)
  rw [dropComments_append (hslash hgap), dropComments_append h.slash_notMem,
    dropComments_append (hslash hblanks), hremark.dropComments_eq, List.append_nil, trim_eq_iff]
  exact ⟨⟨gap, blanks, rfl, hgap, hblanks⟩, fun c hc => h.isBlank_eq_false (List.mem_of_mem_head? hc),
    fun c hc => h.isBlank_eq_false (List.mem_of_mem_getLast? hc)⟩

/-- The header's reader gives the number of a literal, or fails where it has none. -/
theorem Denotes.toOption_replacementValue (h : Denotes literal number)
    (hrest : trim (dropComments rest) = literal) :
    (replacementValue rest).toOption = number.map .int := by
  obtain ⟨digits, hsplits, hread⟩ := h.exists_splits
  rw [replacementValue, hrest, numberPart?_of_splits hsplits]
  simp only [hread]
  cases number <;> rfl

end Header

section Words

theorem isSuffixLetter_toLower (h : isSuffix c = true) : isSuffixLetter c.toLower = true := by
  simp only [isSuffix, Bool.or_eq_true, beq_iff_eq] at h
  rcases h with ((rfl | rfl) | rfl) | rfl <;> decide

theorem isLowerHex_digitChar : ∀ d < 16, isLowerHex (Nat.digitChar d) = true := by
  decide

/-- In lower case the suffix letters behind digits are a suffix. -/
theorem stem_lower (front : List Char) (hbase : base ≤ 16) (hne : body ≠ [])
    (hbody : List.Forall₂ (IsDigit base) body digits) (hsuffix : ∀ c ∈ suffix, isSuffix c = true) :
    Stem (lower (front ++ (body ++ suffix))) (lower (front ++ body)) := by
  obtain ⟨most, last, rfl⟩ := (List.eq_nil_or_concat body).resolve_left hne
  have hmem : last ∈ most.concat last := by simp
  obtain ⟨d, hd, hlast⟩ := exists_isDigit hbody hmem
  have hcut := @Stem.cut (lower (front ++ most)) (lower suffix) last.toLower
    (by rw [hlast]; exact isLowerHex_digitChar d (by omega))
    (by simpa [lower] using fun c hc => isSuffixLetter_toLower (hsuffix c hc))
  simpa [lower] using hcut

/-- Without its suffix letters a literal is one for the reader of words too. -/
theorem Denotes.exists_stem (h : Denotes literal number) :
    ∃ stem, Stem (lower literal) stem ∧ literal? stem = number := by
  cases h with
  | @hexadecimal mark body suffix digits hmark hne hbody hsuffix =>
    refine ⟨_, stem_lower ['0', mark] (by decide) hne hbody hsuffix, ?_⟩
    have hmark' : mark.toLower = 'x' ∨ mark.toLower = 'X' := by
      left
      rcases hmark with rfl | rfl <;> decide
    exact literal?_of_marked hmark' (by simpa [lower] using hne) (forall₂_isDigit_lower (by decide) hbody)
  | @decimal sign body suffix digits hsign hne hbody hsuffix =>
    refine ⟨_, stem_lower sign (by decide) hne hbody hsuffix, ?_⟩
    have hkeep : lower (sign ++ body) = sign ++ lower body := by
      rcases hsign with rfl | rfl <;> rfl
    rw [hkeep]
    exact literal?_of_digits hsign (by simpa [lower] using hne) (forall₂_isDigit_lower (by decide) hbody)

theorem no_digit_of_mem_words : ∀ word ∈ onWords ++ offWords, word.toList.all (!·.isDigit) = true := by
  decide

theorem wordValue?_of_stem {word stem : List Char} (hc : c ∈ word) (hdigit : c.isDigit = true)
    (hstem : Stem word stem) : wordValue? word = (literal? stem).map .int := by
  have hword : String.ofList word ∉ onWords ++ offWords := by
    intro hmem
    have hnone := List.all_eq_true.1 (no_digit_of_mem_words _ hmem) c (by rwa [String.toList_ofList])
    rw [hdigit] at hnone
    cases hnone
  exact wordValue?_of_notMem hword hstem

/-- In lower case a literal still holds a digit, which no word does. -/
theorem Denotes.exists_digit (h : Denotes literal number) : ∃ c ∈ lower literal, c.isDigit = true := by
  cases h with
  | hexadecimal hmark hne hbody hsuffix => exact ⟨'0', List.mem_cons_self, rfl⟩
  | @decimal sign body suffix digits hsign hne hbody hsuffix =>
    obtain ⟨c, rest, rfl⟩ := List.exists_cons_of_ne_nil hne
    obtain ⟨d, hdigit⟩ := exists_isDigit hbody List.mem_cons_self
    exact ⟨c.toLower, List.mem_map_of_mem (by simp), (hdigit.toLower (by decide)).isDigit⟩

/-- The reader of words gives the same number, or fails as well. -/
theorem Denotes.toOption_parseValue (h : Denotes literal number) :
    (parseValue (String.ofList literal)).toOption = number.map .int := by
  obtain ⟨stem, hstem, hread⟩ := h.exists_stem
  obtain ⟨c, hc, hdigit⟩ := h.exists_digit
  rw [parseValue, String.toList_ofList, trim_eq_self fun c hc => h.isBlank_eq_false hc,
    wordValue?_of_stem hc hdigit hstem, hread]
  cases number <;> rfl

end Words

/-- A header of one line that defines a name comes to what the text behind the name does. -/
theorem fromHeader_of_single (hlines : lines text.toList = [line])
    (h : Toggles line ⟨String.ofList name, some rest⟩) (hname : Spells lead.toList key.toList name) :
    fromHeader lead text = (replacementValue rest).map fun v => [(key, v)] := by
  have htoggles : toggles text = [⟨String.ofList name, some rest⟩] := by
    rw [toggles, hlines, List.filterMap_cons_some (toggle?_eq_some_iff.2 h), List.filterMap_nil]
  have hkey : String.ofList (dropLead lead.toList name) = key :=
    ofList_eq_iff.2 (dropLead_eq_iff.2 hname.spelling)
  rw [fromHeader, htoggles, List.mapM_cons, List.mapM_nil]
  simp only [Toggle.pair?, Toggle.value, String.toList_ofList, isReserved_eq_false_iff.2 hname.free, hkey]
  cases replacementValue rest <;> rfl

/-- The plain line that defines a name as a text. -/
theorem definedAs_of_define {first : Char} {more gap cs blanks remark : List Char}
    (hfirst : Identifier.isStart first = true) (hmore : ∀ c ∈ more, isWord c = true)
    (hgap : ∀ c ∈ gap, isBlank c = true) (hblanks : ∀ c ∈ blanks, isBlank c = true)
    (hremark : Remark remark) :
    DefinedAs ("#define ".toList ++ (first :: (more ++ (' ' :: gap ++ (cs ++ (blanks ++ remark))))))
      (first :: more) cs := by
  have hblank : ∀ c ∈ [' '], isBlank c = true := List.all_eq_true.1 rfl
  have hgap' : ∀ c ∈ ' ' :: gap, isBlank c = true := List.forall_mem_cons.2 ⟨rfl, hgap⟩
  have hnames : Names ([' '] ++ (first :: (more ++ (' ' :: gap ++ (cs ++ (blanks ++ remark))))))
      (first :: more) (' ' :: gap ++ (cs ++ (blanks ++ remark))) :=
    .intro hblank (List.cons_ne_nil _ _) hfirst hmore (by simp; decide)
  exact .intro hgap' hblanks hremark (@Toggles.active [] _ _ _ nofun (@Directive.intro [] _ _ _ nofun hnames))

/-- A header and a definition on the command line read a literal alike. In a header that has it as the text
of a name, and maybe a comment behind it, the name gets the integer that the literal denotes unless a later
line sets it; where the literal denotes none, there is no value on either side. -/
theorem read_alike (h : Denotes literal number) (hline : DefinedAs line name literal)
    (hname : Spells lead.toList key.toList name) :
    (parseValue (String.ofList literal)).toOption = number.map .int ∧
      (∀ text, lines text.toList = [line] →
        (fromHeader lead text).toOption = number.map fun n => [(key, .int n)]) ∧
      ∀ text pairs above below, lines text.toList = above ++ line :: below →
        fromHeader lead text = .ok pairs → (∀ other ∈ below, ∀ v, ¬ Sets lead other key v) →
        ∃ n, number = some n ∧ (key, .int n) ∈ pairs := by
  obtain ⟨hgap, hblanks, hremark, htoggles⟩ := hline
  have hvalue := h.toOption_replacementValue (h.trim_dropComments hgap hblanks hremark)
  refine ⟨h.toOption_parseValue, fun text hlines => ?_, fun text pairs above below hlines hread hbelow => ?_⟩
  · rw [fromHeader_of_single hlines htoggles hname, toOption_map, hvalue, Option.map_map]
    rfl
  · have hmem : line ∈ lines text.toList := hlines ▸ List.mem_append_right _ List.mem_cons_self
    obtain ⟨v, hv⟩ := exists_replaced hread hmem htoggles
    rw [replacementValue_eq_ok_iff.2 hv] at hvalue
    obtain ⟨n, hn, rfl⟩ := Option.map_eq_some_iff.1 hvalue.symm
    exact ⟨n, hn, (mem_fromHeader_iff hread).2 ⟨above, line, below, hlines, .on htoggles hname hv, hbelow⟩⟩

/-- Here a capital mark, digits that are letters, a suffix in both cases and a comment come together. -/
theorem read_alike_of_hexadecimal :
    let line := "#define MBEDCRYPTO_WINDOW 0X1fUl /* mask */".toList
    Denotes "0X1fUl".toList (some 31) ∧
      DefinedAs line "MBEDCRYPTO_WINDOW".toList "0X1fUl".toList ∧
      Spells defaultLead.toList "WINDOW".toList "MBEDCRYPTO_WINDOW".toList ∧
      (parseValue "0X1fUl").toOption = some (.int 31) ∧
      (fromHeader defaultLead (String.ofList line)).toOption = some [("WINDOW", .int 31)] := by
  intro line
  have hdenotes : Denotes "0X1fUl".toList (some 31) :=
    @Denotes.hexadecimal 'X' ['1', 'f'] ['U', 'l'] [1, 15] (by decide) (by decide)
      (.cons ⟨by decide, by decide⟩ (.cons ⟨by decide, by decide⟩ .nil)) (List.all_eq_true.1 rfl)
  have hremark : Remark "/* mask */".toList := @Remark.block " mask ".toList (by decide +kernel)
  have hmore : ∀ c ∈ "BEDCRYPTO_WINDOW".toList, isWord c = true := List.all_eq_true.1 rfl
  have hline : DefinedAs line "MBEDCRYPTO_WINDOW".toList "0X1fUl".toList :=
    @definedAs_of_define 'M' _ [] "0X1fUl".toList [' '] _ rfl hmore nofun (List.all_eq_true.1 rfl) hremark
  have hname : Spells defaultLead.toList "WINDOW".toList "MBEDCRYPTO_WINDOW".toList :=
    ⟨by decide, .inl rfl⟩
  have hlines : lines (String.ofList line).toList = [line] := by
    rw [String.toList_ofList]
    rfl
  obtain ⟨hvalue, hread, _⟩ := read_alike hdenotes hline hname
  exact ⟨hdenotes, hline, hname, hvalue, hread _ hlines⟩

end FeatureCert.Selection
