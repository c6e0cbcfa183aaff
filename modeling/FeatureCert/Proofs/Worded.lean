import FeatureCert.Proofs.Literals

/-!
Selections in words as a grammar. A value is a word for on or off, or an integer literal that a suffix may
follow; a definition is a name, or a name and a value around the first equals sign. The readers take a text
in ASCII exactly if the grammar derives it, and else they tell the part that is wrong.
-/
namespace FeatureCert.Selection

open FeatureCert.Text FeatureCert.Numeral

/-- A word without the suffix letters that end it, which are a suffix only behind a hexadecimal digit. -/
inductive Stem : List Char → List Char → Prop where
  | cut {front suffix : List Char} {digit : Char} (hdigit : isLowerHex digit = true)
      (hsuffix : ∀ c ∈ suffix, isSuffixLetter c = true) :
      Stem (front ++ digit :: suffix) (front ++ [digit])
  | kept {word : List Char} (h : ∀ front digit suffix, word = front ++ digit :: suffix →
      (∀ c ∈ suffix, isSuffixLetter c = true) → isLowerHex digit = false) : Stem word word

/-- What a word in lower case stands for. -/
inductive WordValue : List Char → Value → Prop where
  | on {word : List Char} (h : String.ofList word ∈ onWords) : WordValue word (.bool true)
  | off {word : List Char} (h : String.ofList word ∈ offWords) : WordValue word (.bool false)
  | number {word stem : List Char} {n : Int} (hstem : Stem word stem) (h : IsLiteral stem n) :
      WordValue word (.int n)

/-- A value in words, in letters of either case and between blanks. -/
inductive ValueText : List Char → Value → Prop where
  | intro {core cs : List Char} {v : Value} (hcore : IsCore core cs) (h : WordValue (lower core) v) :
      ValueText cs v

structure NameText (cs : List Char) (name : String) : Prop where
  core : IsCore name.toList cs
  valid : Identifier.isValid name.toList = true

/-- The part of a text in front of its first equals sign, and the part behind it where there is one. -/
inductive Divides : List Char → List Char → Option (List Char) → Prop where
  | whole {cs : List Char} (h : '=' ∉ cs) : Divides cs cs none
  | parts {before after : List Char} (h : '=' ∉ before) :
      Divides (before ++ '=' :: after) before (some after)

/-- Definitions: a name alone is on, and a name with a value is set to it. -/
inductive DefineText : List Char → String → Value → Prop where
  | bare {cs before : List Char} {name : String} (h : Divides cs before none)
      (hname : NameText before name) : DefineText cs name (.bool true)
  | valued {cs before after : List Char} {name : String} {v : Value} (h : Divides cs before (some after))
      (hname : NameText before name) (hvalue : ValueText after v) : DefineText cs name v

/-- What is wrong with a text that is no definition: its name, or the value behind a name. -/
inductive DefineFault (text : String) : TextFault → Prop where
  | name {before core : List Char} {rest : Option (List Char)} (h : Divides text.toList before rest)
      (hcore : IsCore core before) (hname : ∀ name, ¬ NameText before name) :
      DefineFault text (.badName (String.ofList core) text)
  | value {before after : List Char} {name : String} (h : Divides text.toList before (some after))
      (hname : NameText before name) (hvalue : ∀ v, ¬ ValueText after v) :
      DefineFault text (.badValue (String.ofList after))

variable {word stem cs before : List Char} {c : Char} {v : Value} {name text source : String}
  {rest : Option (List Char)} {fault : TextFault}

theorem isSuffixLetter_of_isLowerHex (h : isLowerHex c = true) : isSuffixLetter c = false := by
  rw [← Bool.not_eq_true, isSuffixLetter, Bool.or_eq_true, beq_iff_eq, beq_iff_eq]
  rintro (rfl | rfl) <;> revert h <;> decide

/-- Behind a digit that no suffix letter follows, a suffix is dropped. -/
theorem dropSuffix_append {front suffix : List Char} {digit : Char} (hdigit : isLowerHex digit = true)
    (hsuffix : ∀ c ∈ suffix, isSuffixLetter c = true) :
    dropSuffix (front ++ digit :: suffix) = front ++ [digit] := by
  have hstem : (front ++ digit :: suffix).reverse.dropWhile isSuffixLetter = digit :: front.reverse := by
    refine dropWhile_eq_iff.2 ⟨suffix.reverse, by simp, by simpa using hsuffix, ?_⟩
    simpa using isSuffixLetter_of_isLowerHex hdigit
  unfold dropSuffix
  simp only [hstem, hdigit, if_true, List.reverse_cons, List.reverse_reverse]

/-- A suffix is dropped only behind a hexadecimal digit. -/
theorem dropSuffix_of_kept (h : ∀ front digit suffix, word = front ++ digit :: suffix →
    (∀ c ∈ suffix, isSuffixLetter c = true) → isLowerHex digit = false) : dropSuffix word = word := by
  unfold dropSuffix
  dsimp only
  split
  · next digit tail hdrop =>
    obtain ⟨back, hback, hletters, _⟩ := dropWhile_eq_iff.1 hdrop
    have hword : word = tail.reverse ++ digit :: back.reverse := by
      simpa using congrArg List.reverse hback
    rw [h _ _ _ hword (by simpa using hletters)]
    rfl
  · rfl

/-- Dropping a suffix is finding the stem. -/
theorem dropSuffix_eq_iff : dropSuffix word = stem ↔ Stem word stem := by
  constructor
  · rintro rfl
    by_cases h : ∃ front digit suffix, word = front ++ digit :: suffix ∧
        (∀ c ∈ suffix, isSuffixLetter c = true) ∧ isLowerHex digit = true
    · obtain ⟨front, digit, suffix, rfl, hsuffix, hdigit⟩ := h
      rw [dropSuffix_append hdigit hsuffix]
      exact .cut hdigit hsuffix
    · have hkept : ∀ front digit suffix, word = front ++ digit :: suffix →
          (∀ c ∈ suffix, isSuffixLetter c = true) → isLowerHex digit = false := by
        intro front digit suffix hword hsuffix
        rw [← Bool.not_eq_true]
        exact fun hdigit => h ⟨front, digit, suffix, hword, hsuffix, hdigit⟩
      rw [dropSuffix_of_kept hkept]
      exact .kept hkept
  · intro h
    cases h with
    | cut hdigit hsuffix => exact dropSuffix_append hdigit hsuffix
    | kept h => exact dropSuffix_of_kept h

theorem Stem.mem (h : Stem word stem) (hc : c ∈ stem) : c ∈ word := by
  cases h with
  | cut _ _ =>
    rcases List.mem_append.1 hc with hc | hc
    · exact List.mem_append_left _ hc
    · exact List.mem_append_right _ (List.mem_cons.2 (.inl (List.mem_singleton.1 hc)))
  | kept _ => exact hc

/-- No word stands for on and off, and none is a number. -/
theorem notMem_offWords_of_mem : ∀ word ∈ onWords, word ∉ offWords := by
  decide

theorem literal?_dropSuffix_of_mem_words :
    ∀ word ∈ onWords ++ offWords, literal? (dropSuffix word.toList) = none := by
  decide +kernel

theorem wordValue?_of_notMem (hword : String.ofList word ∉ onWords ++ offWords) (hstem : Stem word stem) :
    wordValue? word = (literal? stem).map .int := by
  rw [List.mem_append, not_or] at hword
  simp only [wordValue?, List.contains_iff_mem]
  rw [if_neg hword.1, if_neg hword.2, dropSuffix_eq_iff.2 hstem]

/-- A word is a switch, a literal without its suffix, or a literal as it is. -/
theorem wordValue?_eq_some_iff (hascii : ∀ c ∈ word, c.toNat < 128) :
    wordValue? word = some v ↔ WordValue word v := by
  have hliteral {stem : List Char} {n : Int} (hstem : Stem word stem) :
      literal? stem = some n ↔ IsLiteral stem n :=
    literal?_eq_some_iff fun c hc => hascii c (hstem.mem hc)
  constructor
  · intro h
    simp only [wordValue?, List.contains_iff_mem] at h
    split at h
    · next hon =>
      cases h
      exact .on hon
    · split at h
      · next hoff =>
        cases h
        exact .off hoff
      · obtain ⟨n, hn, rfl⟩ := Option.map_eq_some_iff.1 h
        have hstem := dropSuffix_eq_iff.1 (Eq.refl (dropSuffix word))
        exact .number hstem ((hliteral hstem).1 hn)
  · intro h
    cases h with
    | on h => simp only [wordValue?, List.contains_iff_mem, h, if_true]
    | off h =>
      have hon : String.ofList word ∉ onWords := fun hon => notMem_offWords_of_mem _ hon h
      simp only [wordValue?, List.contains_iff_mem, hon, h, if_false, if_true]
    | number hstem h =>
      have hn := (hliteral hstem).2 h
      have hword : String.ofList word ∉ onWords ++ offWords := by
        intro hmem
        have hnone := literal?_dropSuffix_of_mem_words _ hmem
        rw [String.toList_ofList, dropSuffix_eq_iff.2 hstem, hn] at hnone
        cases hnone
      rw [wordValue?_of_notMem hword hstem, hn, Option.map_some]

theorem toNat_toLower_table : ∀ code < 128, (Char.ofNat code).toLower.toNat < 128 := by
  decide +kernel

theorem ascii_of_isCore {core : List Char} (hcore : IsCore core cs) (hascii : ∀ c ∈ cs, c.toNat < 128) :
    ∀ c ∈ lower core, c.toNat < 128 := by
  obtain ⟨front, back, rfl, _⟩ := hcore.around
  intro c hc
  obtain ⟨d, hd, rfl⟩ := List.mem_map.1 hc
  have hlower := toNat_toLower_table d.toNat (hascii d (by simp [hd]))
  rwa [Char.ofNat_toNat] at hlower

/-- A value is read without regard to case or to blanks around it. -/
theorem parseValue_eq_ok_iff (hascii : ∀ c ∈ text.toList, c.toNat < 128) :
    parseValue text = .ok v ↔ ValueText text.toList v := by
  have hcore := isCore_trim text.toList
  have hread : parseValue text = .ok v ↔ wordValue? (lower (trim text.toList)) = some v := by
    unfold parseValue
    cases wordValue? (lower (trim text.toList)) <;> simp
  rw [hread, wordValue?_eq_some_iff (ascii_of_isCore hcore hascii)]
  constructor
  · exact .intro hcore
  · rintro ⟨hcore', h⟩
    rwa [← hcore'.trim_eq] at h

theorem parseValue_eq_error_iff (hascii : ∀ c ∈ text.toList, c.toNat < 128) :
    parseValue text = .error fault ↔ (∀ v, ¬ ValueText text.toList v) ∧ fault = .badValue text := by
  simp only [← parseValue_eq_ok_iff hascii, parseValue]
  cases wordValue? (lower (trim text.toList)) <;> simp [eq_comm]

theorem parseName_eq_ok_iff : parseName cs source = .ok name ↔ NameText cs name := by
  have hread : parseName cs source = .ok name ↔
      Identifier.isValid (trim cs) = true ∧ String.ofList (trim cs) = name := by
    unfold parseName
    dsimp only
    split <;> simp_all
  rw [hread, ofList_eq_iff]
  constructor
  · rintro ⟨hvalid, hname⟩
    rw [hname] at hvalid
    exact ⟨trim_eq_iff.1 hname, hvalid⟩
  · rintro ⟨hcore, hvalid⟩
    rw [hcore.trim_eq]
    exact ⟨hvalid, rfl⟩

theorem parseName_eq_error_iff : parseName cs source = .error fault ↔
    (∀ name, ¬ NameText cs name) ∧ fault = .badName (String.ofList (trim cs)) source := by
  simp only [← @parseName_eq_ok_iff _ _ source, parseName]
  split <;> simp [eq_comm]

/-- The first equals sign divides, and later ones belong to the value. -/
theorem splitFirst_eq_iff : splitFirst '=' cs = (before, rest) ↔ Divides cs before rest := by
  constructor
  · intro h
    by_cases hmem : '=' ∈ cs
    · obtain ⟨front, after, rfl, hfront⟩ := List.eq_append_cons_of_mem hmem
      rw [splitFirst_append after hfront] at h
      cases h
      exact .parts hfront
    · rw [splitFirst_of_notMem hmem] at h
      cases h
      exact .whole hmem
  · intro h
    cases h with
    | whole h => exact splitFirst_of_notMem h
    | parts h => exact splitFirst_append _ h

theorem exists_divides (cs : List Char) : ∃ before rest, Divides cs before rest :=
  ⟨_, _, splitFirst_eq_iff.1 (Eq.refl (splitFirst '=' cs))⟩

theorem Divides.unique {first : List Char} {other : Option (List Char)} (h : Divides cs before rest)
    (h' : Divides cs first other) : before = first ∧ rest = other :=
  Prod.mk.inj ((splitFirst_eq_iff.2 h).symm.trans (splitFirst_eq_iff.2 h'))

theorem Divides.mem {after : List Char} (h : Divides cs before (some after)) (hc : c ∈ after) : c ∈ cs := by
  cases h
  simp [hc]

theorem parseDefine_bare (h : Divides text.toList before none) :
    parseDefine text = (parseName before text).map (·, .bool true) := by
  simp only [parseDefine, splitFirst_eq_iff.2 h]
  cases parseName before text <;> rfl

theorem parseDefine_valued {after : List Char} (h : Divides text.toList before (some after)) :
    parseDefine text = (parseName before text).bind fun name =>
      (parseValue (String.ofList after)).map (name, ·) := by
  simp only [parseDefine, splitFirst_eq_iff.2 h]
  cases parseName before text <;> cases parseValue (String.ofList after) <;> rfl

theorem ascii_after {after : List Char} (hparts : Divides text.toList before (some after))
    (hascii : ∀ c ∈ text.toList, c.toNat < 128) : ∀ c ∈ (String.ofList after).toList, c.toNat < 128 := by
  rw [String.toList_ofList]
  exact fun c hc => hascii c (hparts.mem hc)

/-- Definitions are read exactly as their grammar has them. -/
theorem parseDefine_eq_ok_iff (hascii : ∀ c ∈ text.toList, c.toNat < 128) :
    parseDefine text = .ok (name, v) ↔ DefineText text.toList name v := by
  obtain ⟨before, rest, hparts⟩ := exists_divides text.toList
  cases rest with
  | none =>
    have hread : parseDefine text = .ok (name, v) ↔
        parseName before text = .ok name ∧ v = .bool true := by
      rw [parseDefine_bare hparts]
      cases parseName before text <;> simp [Except.map, eq_comm]
    rw [hread, parseName_eq_ok_iff]
    constructor
    · rintro ⟨hname, rfl⟩
      exact .bare hparts hname
    · intro h
      cases h with
      | bare h hname =>
        obtain ⟨rfl, _⟩ := hparts.unique h
        exact ⟨hname, rfl⟩
      | valued h _ _ => cases (hparts.unique h).2
  | some after =>
    have hread : parseDefine text = .ok (name, v) ↔
        parseName before text = .ok name ∧ parseValue (String.ofList after) = .ok v := by
      rw [parseDefine_valued hparts]
      cases parseName before text <;> cases parseValue (String.ofList after) <;>
        simp [Except.bind, Except.map]
    rw [hread, parseName_eq_ok_iff, parseValue_eq_ok_iff (ascii_after hparts hascii), String.toList_ofList]
    constructor
    · rintro ⟨hname, hvalue⟩
      exact .valued hparts hname hvalue
    · intro h
      cases h with
      | bare h _ => cases (hparts.unique h).2
      | valued h hname hvalue =>
        obtain ⟨rfl, hafter⟩ := hparts.unique h
        cases hafter
        exact ⟨hname, hvalue⟩

/-- The name is looked at before the value, so that its fault is told first. -/
theorem parseDefine_eq_error_iff (hascii : ∀ c ∈ text.toList, c.toNat < 128) :
    parseDefine text = .error fault ↔ DefineFault text fault := by
  obtain ⟨before, rest, hparts⟩ := exists_divides text.toList
  have hread : parseDefine text = .error fault ↔ parseName before text = .error fault ∨
      ∃ after name, rest = some after ∧ parseName before text = .ok name ∧
        parseValue (String.ofList after) = .error fault := by
    cases rest with
    | none =>
      rw [parseDefine_bare hparts]
      cases parseName before text <;> simp [Except.map]
    | some after =>
      rw [parseDefine_valued hparts]
      cases parseName before text <;> cases hvalue : parseValue (String.ofList after) <;>
        simp [Except.bind, Except.map, hvalue]
  rw [hread, parseName_eq_error_iff]
  constructor
  · rintro (⟨hname, rfl⟩ | ⟨after, name, rfl, hname, hvalue⟩)
    · exact .name hparts (isCore_trim before) hname
    · rw [parseValue_eq_error_iff (ascii_after hparts hascii), String.toList_ofList] at hvalue
      obtain ⟨hvalue, rfl⟩ := hvalue
      exact .value hparts (parseName_eq_ok_iff.1 hname) hvalue
  · intro h
    cases h with
    | name h hcore hname =>
      obtain ⟨rfl, _⟩ := hparts.unique h
      exact .inl ⟨hname, by rw [hcore.trim_eq]⟩
    | value h hname hvalue =>
      obtain ⟨rfl, rfl⟩ := hparts.unique h
      refine .inr ⟨_, _, rfl, parseName_eq_ok_iff.2 hname, ?_⟩
      rw [parseValue_eq_error_iff (ascii_after hparts hascii), String.toList_ofList]
      exact ⟨hvalue, rfl⟩

theorem parseUndefine_eq_ok_iff : parseUndefine text = .ok (name, v) ↔
    NameText text.toList name ∧ v = .bool false := by
  rw [← @parseName_eq_ok_iff _ _ text, parseUndefine]
  cases parseName text.toList text <;> simp [bind, Except.bind, pure, Except.pure, eq_comm]

theorem parseUndefine_eq_error_iff : parseUndefine text = .error fault ↔
    (∀ name, ¬ NameText text.toList name) ∧ fault = .badName (String.ofList (trim text.toList)) text := by
  rw [← parseName_eq_error_iff, parseUndefine]
  cases parseName text.toList text <;> simp [bind, Except.bind, pure, Except.pure]

/-- Text in ASCII is taken for a definition, for a name that is off and for a value exactly as the grammar
has it, and what is not taken is refused with the part that is wrong. -/
theorem taken_iff_derived (hascii : ∀ c ∈ text.toList, c.toNat < 128) :
    (∀ name v, parseDefine text = .ok (name, v) ↔ DefineText text.toList name v) ∧
      (∀ name v, parseUndefine text = .ok (name, v) ↔ NameText text.toList name ∧ v = .bool false) ∧
      (∀ v, parseValue text = .ok v ↔ ValueText text.toList v) ∧
      (∀ fault, parseDefine text = .error fault ↔ DefineFault text fault) ∧
      (∀ fault, parseUndefine text = .error fault ↔ (∀ name, ¬ NameText text.toList name) ∧
        fault = .badName (String.ofList (trim text.toList)) text) ∧
      ∀ fault, parseValue text = .error fault ↔
        (∀ v, ¬ ValueText text.toList v) ∧ fault = .badValue text :=
  ⟨fun _ _ => parseDefine_eq_ok_iff hascii, fun _ _ => parseUndefine_eq_ok_iff,
    fun _ => parseValue_eq_ok_iff hascii, fun _ => parseDefine_eq_error_iff hascii,
    fun _ => parseUndefine_eq_error_iff, fun _ => parseValue_eq_error_iff hascii⟩

/-- Here a suffix stands behind a digit that is a letter; the text of a definition is no value itself. -/
theorem defined_by_grouped_hexadecimal :
    (∀ c ∈ " WINDOW\t= 0x1_FUL ".toList, c.toNat < 128) ∧
      DefineText " WINDOW\t= 0x1_FUL ".toList "WINDOW" (.int 31) ∧
      ∀ v, ¬ ValueText " WINDOW\t= 0x1_FUL ".toList v := by
  have hascii : ∀ c ∈ " WINDOW\t= 0x1_FUL ".toList, c.toNat < 128 := by simp
  have hread : parseDefine " WINDOW\t= 0x1_FUL " = .ok ("WINDOW", .int 31) := rfl
  have hnone : parseValue " WINDOW\t= 0x1_FUL " = .error (.badValue " WINDOW\t= 0x1_FUL ") := rfl
  obtain ⟨hdefine, _, _, _, _, hvalue⟩ := taken_iff_derived hascii
  exact ⟨hascii, (hdefine _ _).1 hread, ((hvalue _).1 hnone).1⟩

end FeatureCert.Selection
