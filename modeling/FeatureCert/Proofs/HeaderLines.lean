import FeatureCert.Proofs.Refused
import FeatureCert.Proofs.Toggled

/-!
The lines of a header. Each toggles one name or none; a reserved name is no identifier, and any other stands
for one, with the common lead or without it. What a header gives an identifier is told by the last line that
toggles it, at the place of the first.
-/
namespace FeatureCert.Selection

open FeatureCert.Text

/-- A name behind blanks, up to the first character that is no part of it, and the text behind it. -/
inductive Names : List Char → List Char → List Char → Prop where
  | intro {gap more rest : List Char} {first : Char} (hgap : ∀ c ∈ gap, isBlank c = true) (hne : gap ≠ [])
      (hfirst : Identifier.isStart first = true) (hmore : ∀ c ∈ more, isWord c = true)
      (hrest : ∀ c ∈ rest.head?, isWord c = false) :
      Names (gap ++ (first :: (more ++ rest))) (first :: more) rest

/-- The directive that defines a name. -/
inductive Directive : List Char → List Char → List Char → Prop where
  | intro {inner tail name rest : List Char} (hinner : ∀ c ∈ inner, isBlank c = true)
      (h : Names tail name rest) :
      Directive ('#' :: (inner ++ (['d', 'e', 'f', 'i', 'n', 'e'] ++ tail))) name rest

/-- The lines that toggle a name: a definition, or one behind a mark that opens a comment. -/
inductive Toggles : List Char → Toggle → Prop where
  | active {indent cs name rest : List Char} (hindent : ∀ c ∈ indent, isBlank c = true)
      (h : Directive cs name rest) : Toggles (indent ++ cs) ⟨String.ofList name, some rest⟩
  | inactive {indent gap cs name rest : List Char} {mark : Char} {n : Nat}
      (hindent : ∀ c ∈ indent, isBlank c = true) (hmark : mark = '/' ∨ mark = '*')
      (hgap : ∀ c ∈ gap, isBlank c = true) (h : Directive cs name rest) :
      Toggles (indent ++ '/' :: (List.replicate (n + 1) mark ++ (gap ++ cs))) ⟨String.ofList name, none⟩

/-- A name that is not reserved, as a spelling of an identifier with the lead in front or without it. -/
structure Spells (lead key name : List Char) : Prop where
  free : ¬ ['_'] <+: name ∧ ¬ ['_', 'H'] <:+ name
  spelling : name = lead ++ key ∨ name = key ∧ ¬ lead <+: name

variable {lead text key : String} {cs line name rest start : List Char} {t : Toggle} {v : Value} {c : Char}
  {pairs : List (String × Value)}

theorem after?_eq_some_iff : after? start cs = some rest ↔ cs = start ++ rest := by
  unfold after? startsWith
  constructor
  · intro h
    split at h
    · next hstart =>
      obtain ⟨tail, rfl⟩ := List.isPrefixOf_iff_prefix.1 hstart
      simpa using h
    · cases h
  · rintro rfl
    simp

theorem isBlank_of_isStart (h : Identifier.isStart c = true) : isBlank c = false :=
  Identifier.isBlank_of_isPart (Identifier.isPart_of_isStart h)

theorem Directive.head (h : Directive cs name rest) : cs.head? = some '#' := by
  cases h
  rfl

/-- The name behind a directive, and the text behind the name. -/
def named? : List Char → Option (String × List Char)
  | [] => none
  | c :: tail =>
    if isBlank c then
      match (c :: tail).dropWhile isBlank with
      | d :: more =>
        if Identifier.isStart d then
          some (String.ofList (d :: more.takeWhile isWord), more.dropWhile isWord)
        else none
      | [] => none
    else none

/-- A definition is a number sign and the word behind it, with blanks between and behind them. -/
theorem definition?_eq (cs : List Char) :
    definition? cs = (after? ['#'] cs).bind fun rest =>
      (after? ['d', 'e', 'f', 'i', 'n', 'e'] (rest.dropWhile isBlank)).bind named? := by
  unfold definition?
  congr
  funext rest
  congr
  funext tail
  cases tail <;> rfl

/-- A name is taken up to the first character that is no part of it. -/
theorem Names.named?_eq (h : Names cs name rest) : named? cs = some (String.ofList name, rest) := by
  obtain @⟨gap, more, rest, first, hgap, hne, hfirst, hmore, hrest⟩ := h
  obtain ⟨blank, gap, rfl⟩ := List.exists_cons_of_ne_nil hne
  have hname : (blank :: (gap ++ (first :: (more ++ rest)))).dropWhile isBlank = first :: (more ++ rest) :=
    dropWhile_eq_iff.2 ⟨blank :: gap, rfl, hgap, by simpa using isBlank_of_isStart hfirst⟩
  have htail : (more ++ rest).dropWhile isWord = rest := dropWhile_eq_iff.2 ⟨more, rfl, hmore, hrest⟩
  have hmiddle : (more ++ rest).takeWhile isWord = more := by
    have hwhole := List.takeWhile_append_dropWhile (p := isWord) (l := more ++ rest)
    rw [htail] at hwhole
    exact List.append_cancel_right hwhole
  rw [List.cons_append, named?, if_pos (hgap blank List.mem_cons_self), hname]
  simp only [hfirst, if_true, hmiddle, htail]

/-- Behind blanks, a name goes as far as there are word characters. -/
theorem names_of_dropWhile {blank first : Char} {more : List Char} (hblank : isBlank blank = true)
    (hdrop : (blank :: cs).dropWhile isBlank = first :: more) (hfirst : Identifier.isStart first = true) :
    Names (blank :: cs) (first :: more.takeWhile isWord) (more.dropWhile isWord) := by
  obtain ⟨gap, hgap, hblanks, _⟩ := dropWhile_eq_iff.1 hdrop
  obtain ⟨_, _, _, hrest⟩ := dropWhile_eq_iff.1 (Eq.refl (more.dropWhile isWord))
  have hne : gap ≠ [] := by
    rintro rfl
    cases hgap
    rw [isBlank_of_isStart hfirst] at hblank
    cases hblank
  have hword : ∀ c ∈ more.takeWhile isWord, isWord c = true := fun c hc => List.mem_takeWhile_imp hc
  have hnames := Names.intro hblanks hne hfirst hword hrest
  rwa [List.takeWhile_append_dropWhile, ← hgap] at hnames

theorem names_of_named? {found : String} (h : named? cs = some (found, rest)) :
    Names cs found.toList rest := by
  unfold named? at h
  split at h
  · cases h
  · split at h
    · next hblank =>
      split at h
      · next hdrop =>
        split at h
        · next hfirst =>
          cases h
          rw [String.toList_ofList]
          exact names_of_dropWhile hblank hdrop hfirst
        · cases h
      · cases h
    · cases h

theorem named?_eq_some_iff {found : String} :
    named? cs = some (found, rest) ↔ Names cs found.toList rest := by
  refine ⟨names_of_named?, fun h => ?_⟩
  rw [h.named?_eq, String.ofList_toList]

/-- A definition is read exactly where there is the directive. -/
theorem definition?_eq_some_iff {found : String} :
    definition? cs = some (found, rest) ↔ Directive cs found.toList rest := by
  rw [definition?_eq]
  constructor
  · intro h
    obtain ⟨body, hbody, h⟩ := Option.bind_eq_some_iff.1 h
    obtain ⟨tail, htail, hname⟩ := Option.bind_eq_some_iff.1 h
    cases after?_eq_some_iff.1 hbody
    obtain ⟨inner, rfl, hinner, _⟩ := dropWhile_eq_iff.1 (after?_eq_some_iff.1 htail)
    exact .intro hinner (named?_eq_some_iff.1 hname)
  · rintro ⟨hinner, h⟩
    rename_i inner tail
    have hword : (inner ++ (['d', 'e', 'f', 'i', 'n', 'e'] ++ tail)).dropWhile isBlank =
        ['d', 'e', 'f', 'i', 'n', 'e'] ++ tail := dropWhile_eq_iff.2 ⟨inner, rfl, hinner, by simp [isBlank]⟩
    have hsharp : after? ['#'] ('#' :: (inner ++ (['d', 'e', 'f', 'i', 'n', 'e'] ++ tail))) = some _ :=
      after?_eq_some_iff.2 rfl
    rw [hsharp]
    change (after? _ ((inner ++ (['d', 'e', 'f', 'i', 'n', 'e'] ++ tail)).dropWhile isBlank)).bind named? = _
    rw [hword, after?_eq_some_iff.2 rfl]
    exact named?_eq_some_iff.2 h

/-- A mark that opens a comment is a slash and as many more slashes, or as many stars, as there are. -/
theorem dropWhile_eq_replicate_iff {mark : Char} {tail : List Char} :
    tail.dropWhile (· == mark) = rest ↔
      ∃ n, tail = List.replicate n mark ++ rest ∧ rest.head? ≠ some mark := by
  rw [dropWhile_eq_iff]
  constructor
  · rintro ⟨front, rfl, hfront, hrest⟩
    have hsame : front = List.replicate front.length mark :=
      List.eq_replicate_iff.2 ⟨rfl, fun c hc => eq_of_beq (hfront c hc)⟩
    refine ⟨front.length, by rw [← hsame], fun hmark => ?_⟩
    simpa using hrest mark hmark
  · rintro ⟨n, rfl, hrest⟩
    refine ⟨_, rfl, fun c hc => by simpa using List.eq_of_mem_replicate hc, ?_⟩
    rintro c hc
    simpa using fun he : c = mark => hrest (he ▸ hc)

/-- All stars or slashes of a mark are passed, so that what follows begins with none of its kind. -/
theorem behindMark?_eq_some_iff :
    behindMark? cs = some rest ↔ ∃ mark n, (mark = '/' ∨ mark = '*') ∧
      cs = '/' :: (List.replicate (n + 1) mark ++ rest) ∧ rest.head? ≠ some mark := by
  constructor
  · intro h
    unfold behindMark? at h
    split at h
    · next tail =>
      obtain ⟨n, rfl, hrest⟩ := dropWhile_eq_replicate_iff.1 (Option.some.inj h)
      exact ⟨'/', n, .inl rfl, rfl, hrest⟩
    · next tail =>
      obtain ⟨n, rfl, hrest⟩ := dropWhile_eq_replicate_iff.1 (Option.some.inj h)
      exact ⟨'*', n, .inr rfl, rfl, hrest⟩
    · cases h
  · rintro ⟨mark, n, rfl | rfl, rfl, hrest⟩
    · exact congrArg some (dropWhile_eq_replicate_iff.2 ⟨n, rfl, hrest⟩)
    · exact congrArg some (dropWhile_eq_replicate_iff.2 ⟨n, rfl, hrest⟩)

theorem definition?_of_head (h : cs.head? ≠ some '#') : definition? cs = none := by
  rw [Option.eq_none_iff_forall_ne_some]
  rintro ⟨found, rest⟩ hread
  exact h (definition?_eq_some_iff.1 hread).head

/-- A line is tried as a definition first, and then as one behind a mark. -/
theorem toggle?_eq (line : List Char) :
    toggle? line = ((definition? (line.dropWhile isBlank)).map fun p => ⟨p.1, some p.2⟩).or
      ((behindMark? (line.dropWhile isBlank)).bind fun rest =>
        (definition? (rest.dropWhile isBlank)).map fun p => ⟨p.1, none⟩) := by
  simp only [toggle?]
  cases definition? (line.dropWhile isBlank) with
  | some p => rfl
  | none =>
    cases behindMark? (line.dropWhile isBlank) with
    | none => rfl
    | some rest => cases hread : definition? (rest.dropWhile isBlank) <;> simp [hread]

/-- What is read of a line stands in it. -/
theorem toggles_of_toggle? (h : toggle? line = some t) : Toggles line t := by
  rw [toggle?_eq, Option.or_eq_some_iff] at h
  obtain ⟨indent, hline, hindent, _⟩ := dropWhile_eq_iff.1 (Eq.refl (line.dropWhile isBlank))
  rw [hline]
  rcases h with h | ⟨_, h⟩
  · obtain ⟨⟨found, rest⟩, hread, rfl⟩ := Option.map_eq_some_iff.1 h
    have hactive := Toggles.active hindent (definition?_eq_some_iff.1 hread)
    rwa [String.ofList_toList] at hactive
  · obtain ⟨body, hbody, h⟩ := Option.bind_eq_some_iff.1 h
    obtain ⟨⟨found, rest⟩, hread, rfl⟩ := Option.map_eq_some_iff.1 h
    obtain ⟨mark, n, hmark, hbehind, _⟩ := behindMark?_eq_some_iff.1 hbody
    obtain ⟨gap, hgap, hblanks, _⟩ := dropWhile_eq_iff.1 (Eq.refl (body.dropWhile isBlank))
    have hinactive := Toggles.inactive (n := n) hindent hmark hblanks (definition?_eq_some_iff.1 hread)
    rwa [String.ofList_toList, ← hgap, ← hbehind] at hinactive

/-- The reader of lines finds just the toggles that there are. -/
theorem toggle?_eq_some_iff : toggle? line = some t ↔ Toggles line t := by
  refine ⟨toggles_of_toggle?, fun h => ?_⟩
  rw [toggle?_eq]
  cases h with
  | @active indent cs name rest hindent h =>
    have hdrop : (indent ++ cs).dropWhile isBlank = cs :=
      dropWhile_eq_iff.2 ⟨indent, rfl, hindent, by simp [h.head, isBlank]⟩
    have hread : definition? cs = some (String.ofList name, rest) :=
      definition?_eq_some_iff.2 (by rwa [String.toList_ofList])
    rw [hdrop, hread]
    rfl
  | @inactive indent gap cs name rest mark n hindent hmark hgap h =>
    have hdrop : (indent ++ '/' :: (List.replicate (n + 1) mark ++ (gap ++ cs))).dropWhile isBlank =
        '/' :: (List.replicate (n + 1) mark ++ (gap ++ cs)) :=
      dropWhile_eq_iff.2 ⟨indent, rfl, hindent, by simp [isBlank]⟩
    have hbody : (gap ++ cs).dropWhile isBlank = cs :=
      dropWhile_eq_iff.2 ⟨gap, rfl, hgap, by simp [h.head, isBlank]⟩
    -- neither a blank nor the directive goes on with the mark
    have hend : (gap ++ cs).head? ≠ some mark := by
      intro hhead
      cases gap with
      | nil =>
        rw [List.nil_append, h.head, Option.some.injEq] at hhead
        rcases hmark with rfl | rfl <;> cases hhead
      | cons blank gap =>
        cases hhead
        have hblank := hgap mark List.mem_cons_self
        rcases hmark with rfl | rfl <;> cases hblank
    have hbehind := behindMark?_eq_some_iff.2 ⟨mark, n, hmark, rfl, hend⟩
    have hnone : definition? ('/' :: (List.replicate (n + 1) mark ++ (gap ++ cs))) = none :=
      definition?_of_head (by simp)
    have hread : definition? cs = some (String.ofList name, rest) :=
      definition?_eq_some_iff.2 (by rwa [String.toList_ofList])
    rw [hdrop, hnone, hbehind, Option.bind_some, hbody, hread]
    rfl

theorem isReserved_eq_false_iff :
    isReserved name = false ↔ ¬ ['_'] <+: name ∧ ¬ ['_', 'H'] <:+ name := by
  have hback : ['H', '_'] <+: name.reverse ↔ ['_', 'H'] <:+ name := @List.reverse_prefix _ ['_', 'H'] name
  rw [isReserved, Bool.or_eq_false_iff, ← Bool.not_eq_true, ← Bool.not_eq_true, startsWith, startsWith,
    List.isPrefixOf_iff_prefix, List.isPrefixOf_iff_prefix, hback]

/-- The lead is dropped once where it stands, and nothing is dropped where it does not. -/
theorem dropLead_eq_iff {lead key : List Char} :
    dropLead lead name = key ↔ name = lead ++ key ∨ name = key ∧ ¬ lead <+: name := by
  by_cases hlead : lead <+: name
  · obtain ⟨rest, rfl⟩ := hlead
    have hdrop : dropLead lead (lead ++ rest) = rest := by
      cases lead <;> simp [dropLead, startsWith]
    rw [hdrop]
    simp
  · have hkeep : dropLead lead name = name := by
      simp [dropLead, startsWith, hlead]
    have hnot : name ≠ lead ++ key := by
      rintro rfl
      exact hlead (List.prefix_append _ _)
    rw [hkeep]
    simp [hnot, hlead]

/-- A toggle is about an identifier exactly if its name is a spelling of it. -/
theorem Toggle.subject?_eq_some_iff :
    t.subject? lead = some key ↔ Spells lead.toList key.toList t.name.toList := by
  unfold subject?
  split
  · next hreserved =>
    refine iff_of_false (by simp) fun h => ?_
    rw [isReserved_eq_false_iff.2 h.free] at hreserved
    cases hreserved
  · next hfree =>
    rw [Option.some.injEq, ofList_eq_iff, dropLead_eq_iff]
    exact ⟨fun h => ⟨isReserved_eq_false_iff.1 (by simpa using hfree), h⟩, Spells.spelling⟩

/-- What the text behind a name sets it to: the number that the text spells, or on where it spells none. -/
inductive Replaced : List Char → Value → Prop where
  | number {rest digits : List Char} {n : Int} (h : Splits (trim (dropComments rest)) digits)
      (hn : Numeral.literal? digits = some n) : Replaced rest (.int n)
  | word {rest : List Char} (h : ∀ digits, ¬ Splits (trim (dropComments rest)) digits) :
      Replaced rest (.bool true)

/-- A replacement text gives its number, or on where it begins as none. -/
theorem replacementValue_eq_ok_iff : replacementValue rest = .ok v ↔ Replaced rest v := by
  constructor
  · intro h
    rcases replacementValue_cases h with ⟨rfl, hnone⟩ | ⟨digits, n, rfl, hsplits, hn⟩
    · refine .word fun digits hsplits => ?_
      rw [numberPart?_of_splits hsplits] at hnone
      cases hnone
    · exact .number hsplits hn
  · intro h
    cases h with
    | number h hn => simp [replacementValue, numberPart?_of_splits h, hn]
    | word h =>
      have hnone : numberPart? (trim (dropComments rest)) = none :=
        Option.eq_none_iff_forall_ne_some.2 fun digits hdigits => h digits (splits_of_numberPart? hdigits)
      simp [replacementValue, hnone]

/-- A line sets an identifier: to what the text behind the name gives, or to off behind a comment mark. -/
inductive Sets (lead : String) : List Char → String → Value → Prop where
  | on {line name rest : List Char} {key : String} {v : Value}
      (h : Toggles line ⟨String.ofList name, some rest⟩) (hname : Spells lead.toList key.toList name)
      (hvalue : Replaced rest v) : Sets lead line key v
  | off {line name : List Char} {key : String} (h : Toggles line ⟨String.ofList name, none⟩)
      (hname : Spells lead.toList key.toList name) : Sets lead line key (.bool false)

/-- A line sets what its toggle is about, unless the name is reserved. -/
theorem sets_iff :
    Sets lead line key v ↔
      ∃ t, toggle? line = some t ∧ t.subject? lead = some key ∧ t.value = .ok v := by
  constructor
  · intro h
    cases h with
    | on h hname hvalue =>
      exact ⟨_, toggle?_eq_some_iff.2 h, Toggle.subject?_eq_some_iff.2 (by simpa using hname),
        replacementValue_eq_ok_iff.2 hvalue⟩
    | off h hname =>
      exact ⟨_, toggle?_eq_some_iff.2 h, Toggle.subject?_eq_some_iff.2 (by simpa using hname), rfl⟩
  · rintro ⟨⟨name, replacement⟩, ht, hid, hv⟩
    have htoggles := toggle?_eq_some_iff.1 ht
    have hspells := Toggle.subject?_eq_some_iff.1 hid
    rw [← String.ofList_toList (s := name)] at htoggles
    cases replacement with
    | none =>
      cases hv
      exact .off htoggles hspells
    | some rest => exact .on htoggles hspells (replacementValue_eq_ok_iff.1 hv)

/-- A line sets one identifier, and to one value. -/
theorem Sets.unique {other : String} {w : Value} (h : Sets lead line key v) (h' : Sets lead line other w) :
    key = other ∧ v = w := by
  obtain ⟨t, ht, hid, hv⟩ := sets_iff.1 h
  obtain ⟨u, hu, hother, hw⟩ := sets_iff.1 h'
  rw [ht, Option.some.injEq] at hu
  subst hu
  exact ⟨Option.some.inj (hid.symm.trans hother), Except.ok.inj (hv.symm.trans hw)⟩

/-- What lines set, one after the other; those that set nothing are passed over. -/
inductive Settings (lead : String) : List (List Char) → List (String × Value) → Prop where
  | nil : Settings lead [] []
  | pass {line : List Char} {rest : List (List Char)} {settings : List (String × Value)}
      (h : ∀ key v, ¬ Sets lead line key v) (hrest : Settings lead rest settings) :
      Settings lead (line :: rest) settings
  | set {line : List Char} {rest : List (List Char)} {settings : List (String × Value)} {key : String}
      {v : Value} (h : Sets lead line key v) (hrest : Settings lead rest settings) :
      Settings lead (line :: rest) ((key, v) :: settings)

/-- What a header comes to: each identifier once, at the place of the first line that sets it and with what
the last one sets it to. No definition is without a value, not even that of a reserved name. -/
structure Overrides (lead : String) (lines : List (List Char)) (pairs : List (String × Value)) : Prop where
  valued : ∀ line ∈ lines, ∀ name rest, Toggles line ⟨name, some rest⟩ → ∃ v, Replaced rest v
  distinct : (pairs.map (·.1)).Nodup
  last : ∀ key v, (key, v) ∈ pairs ↔ ∃ above line below, lines = above ++ line :: below ∧
    Sets lead line key v ∧ ∀ other ∈ below, ∀ w, ¬ Sets lead other key w
  ordered : (pairs.map (·.1)).Pairwise fun a b => ∃ above line below, lines = above ++ line :: below ∧
    (∃ v, Sets lead line a v) ∧ ∀ other ∈ above, ∀ w, ¬ Sets lead other b w
  merged : ∃ settings, Settings lead lines settings ∧ pairs = merge (settings.map fun p => [p])

section Settings

variable {ls : List (List Char)} {settings before after : List (String × Value)}

/-- Toggles are read line by line, and the first one without a value ends the reading. -/
theorem settings_of_mapM {results : List (Option (String × Value))}
    (h : (ls.filterMap toggle?).mapM (Toggle.pair? lead) = .ok results) :
    Settings lead ls (results.filterMap id) := by
  induction ls generalizing results with
  | nil =>
    cases h
    exact .nil
  | cons line rest ih =>
    cases ht : toggle? line with
    | none =>
      rw [List.filterMap_cons_none ht] at h
      refine .pass (fun key v hsets => ?_) (ih h)
      obtain ⟨t, htoggle, _⟩ := sets_iff.1 hsets
      rw [ht] at htoggle
      cases htoggle
    | some t =>
      rw [List.filterMap_cons_some ht] at h
      obtain ⟨p, others, hp, hothers, rfl⟩ := List.forall₂_cons_left_iff.1 (mapM_eq_ok_iff.1 h)
      have hrest := ih (mapM_eq_ok_iff.2 hothers)
      obtain ⟨v, hv, rfl⟩ := Toggle.pair?_ok hp
      cases hkey : t.subject? lead with
      | none =>
        refine .pass (fun key v hsets => ?_) hrest
        obtain ⟨u, hu, hother, _⟩ := sets_iff.1 hsets
        rw [ht, Option.some.injEq] at hu
        rw [← hu, hkey] at hother
        cases hother
      | some key => exact .set (sets_iff.2 ⟨t, ht, hkey, hv⟩) hrest

theorem Settings.append_inv {above below : List (List Char)} (h : Settings lead (above ++ below) settings) :
    ∃ before after, settings = before ++ after ∧ Settings lead above before ∧ Settings lead below after := by
  induction above generalizing settings with
  | nil => exact ⟨[], settings, rfl, .nil, h⟩
  | cons line above ih =>
    cases h with
    | pass h hrest =>
      obtain ⟨before, after, rfl, hbefore, hafter⟩ := ih hrest
      exact ⟨before, after, rfl, .pass h hbefore, hafter⟩
    | set h hrest =>
      obtain ⟨before, after, rfl, hbefore, hafter⟩ := ih hrest
      exact ⟨_ :: before, after, rfl, .set h hbefore, hafter⟩

/-- Each pair comes from a line, with what is set above it and below it. -/
theorem Settings.exists_line {p : String × Value} (h : Settings lead ls (before ++ p :: after)) :
    ∃ above line below, ls = above ++ line :: below ∧ Settings lead above before ∧
      Sets lead line p.1 p.2 ∧ Settings lead below after := by
  generalize hall : before ++ p :: after = settings at h
  induction h generalizing before with
  | nil => simp at hall
  | @pass line rest settings hline _ ih =>
    obtain ⟨above, own, below, rfl, habove, hown, hbelow⟩ := ih hall
    exact ⟨line :: above, own, below, rfl, .pass hline habove, hown, hbelow⟩
  | @set line rest settings key v hline hrest ih =>
    cases before with
    | nil =>
      cases hall
      exact ⟨[], line, rest, rfl, .nil, hline, hrest⟩
    | cons q before =>
      cases hall
      obtain ⟨above, own, below, rfl, habove, hown, hbelow⟩ := ih rfl
      exact ⟨line :: above, own, below, rfl, .set hline habove, hown, hbelow⟩

/-- An identifier is among the pairs exactly if a line sets it. -/
theorem Settings.mem_names_iff (h : Settings lead ls settings) :
    key ∈ settings.map (·.1) ↔ ∃ line ∈ ls, ∃ v, Sets lead line key v := by
  induction h with
  | nil => simp
  | pass hline _ ih =>
    rw [ih, List.exists_mem_cons_iff, or_iff_right]
    rintro ⟨v, hv⟩
    exact hline key v hv
  | @set line rest settings own v hline _ ih =>
    have hfirst : key = own ↔ ∃ w, Sets lead line key w := by
      constructor
      · rintro rfl
        exact ⟨v, hline⟩
      · rintro ⟨w, hw⟩
        exact (hw.unique hline).1
    rw [List.map_cons, List.mem_cons, ih, hfirst, List.exists_mem_cons_iff]

/-- The last value of a name is set by the last line that sets it. -/
theorem Settings.isLastPair_iff (h : Settings lead ls settings) :
    IsLastPair settings key v ↔ ∃ above line below, ls = above ++ line :: below ∧
      Sets lead line key v ∧ ∀ other ∈ below, ∀ w, ¬ Sets lead other key w := by
  constructor
  · rintro ⟨before, after, rfl, hafter⟩
    obtain ⟨above, line, below, rfl, _, hline, hbelow⟩ := h.exists_line
    refine ⟨above, line, below, rfl, hline, fun other hother w hw => ?_⟩
    have hmem := hbelow.mem_names_iff.2 ⟨other, hother, w, hw⟩
    obtain ⟨p, hp, hname⟩ := List.mem_map.1 hmem
    exact hafter p hp hname
  · rintro ⟨above, line, below, rfl, hline, hbelow⟩
    obtain ⟨before, rest, rfl, _, hrest⟩ := h.append_inv
    cases hrest with
    | pass hpass _ => exact absurd hline (hpass key v)
    | set hset hafter =>
      obtain ⟨rfl, rfl⟩ := hline.unique hset
      refine ⟨before, _, rfl, fun p hp hname => ?_⟩
      obtain ⟨other, hother, w, hw⟩ := hafter.mem_names_iff.1 (List.mem_map.2 ⟨p, hp, hname⟩)
      exact hbelow other hother w hw

/-- Of two identifiers in the order of their first mention, a line sets the one before any sets the other. -/
theorem Settings.exists_line_before {other : String} (h : Settings lead ls settings)
    (hkey : key ∈ settings.map (·.1))
    (hlt : (settings.map (·.1)).idxOf key < (settings.map (·.1)).idxOf other) :
    ∃ above line below, ls = above ++ line :: below ∧ (∃ v, Sets lead line key v) ∧
      ∀ earlier ∈ above, ∀ w, ¬ Sets lead earlier other w := by
  obtain ⟨first, last, hnames, hnot⟩ := List.eq_append_cons_of_mem hkey
  obtain ⟨before, rest, rfl, rfl, hrest⟩ := List.map_eq_append_iff.1 hnames
  obtain ⟨p, after, rfl, rfl, rfl⟩ := List.map_eq_cons_iff.1 hrest
  obtain ⟨above, line, below, rfl, habove, hline, _⟩ := h.exists_line
  refine ⟨above, line, below, rfl, ⟨p.2, hline⟩, fun earlier hearlier w hw => ?_⟩
  have hmem : other ∈ before.map (·.1) := habove.mem_names_iff.2 ⟨earlier, hearlier, w, hw⟩
  rw [hnames, List.idxOf_append_of_mem hmem, List.idxOf_append_of_notMem hnot, List.idxOf_cons_self] at hlt
  have hbound := List.idxOf_lt_length_of_mem hmem
  omega

end Settings

/-- Where a header is read, every definition in it has a value, that of a reserved name included. -/
theorem exists_replaced (h : fromHeader lead text = .ok pairs) (hline : line ∈ lines text.toList)
    {name : String} (htoggles : Toggles line ⟨name, some rest⟩) : ∃ v, Replaced rest v := by
  have hmem : ⟨name, some rest⟩ ∈ toggles text :=
    List.mem_filterMap.2 ⟨line, hline, toggle?_eq_some_iff.2 htoggles⟩
  have hgood := (exists_fromHeader_iff lead text).1 ⟨pairs, h⟩ _ hmem rest rfl
  obtain ⟨v, hv⟩ := exists_replacementValue_iff.2 hgood
  exact ⟨v, replacementValue_eq_ok_iff.1 hv⟩

theorem exists_settings (h : fromHeader lead text = .ok pairs) :
    ∃ settings, Settings lead (lines text.toList) settings ∧ pairs = collect settings := by
  obtain ⟨results, hresults, h⟩ := bind_eq_ok_iff.1 h
  cases h
  exact ⟨_, settings_of_mapM hresults, rfl⟩

/-- The last line that sets an identifier decides what a header pairs with it. -/
theorem mem_fromHeader_iff (h : fromHeader lead text = .ok pairs) :
    (key, v) ∈ pairs ↔ ∃ above line below, lines text.toList = above ++ line :: below ∧
      Sets lead line key v ∧ ∀ other ∈ below, ∀ w, ¬ Sets lead other key w := by
  obtain ⟨settings, hsettings, rfl⟩ := exists_settings h
  rw [mem_collect_iff, hsettings.isLastPair_iff]

/-- A header that is read comes to what its lines set, later ones overriding those above them. -/
theorem overrides_of_fromHeader (h : fromHeader lead text = .ok pairs) :
    Overrides lead (lines text.toList) pairs := by
  have hlast := fun key v => @mem_fromHeader_iff lead text key v pairs h
  have hvalued := fun line hline name rest => @exists_replaced lead text line rest pairs h hline name
  obtain ⟨settings, hsettings, rfl⟩ := exists_settings h
  refine ⟨hvalued, nodup_names_collect settings, hlast, ?_, settings, hsettings, ?_⟩
  · apply (pairwise_names_collect settings).imp_of_mem
    intro a b ha _ hlt
    exact hsettings.exists_line_before (mem_names_collect.1 ha) hlt
  · rw [merge, ← List.flatMap_def, List.flatMap_singleton']

/-- Here a name is set twice, with the common lead and without it, around an include guard. -/
theorem overrides_of_sample :
    let text := "#define MBEDCRYPTO_A\n#define X_H\n/* #define B */\n#define A 7 // seven\n"
    let pairs : List (String × Value) := [("A", .int 7), ("B", .bool false)]
    fromHeader defaultLead text = .ok pairs ∧ Overrides defaultLead (lines text.toList) pairs := by
  intro text pairs
  have htoggles : toggles text = [⟨"MBEDCRYPTO_A", some []⟩, ⟨"X_H", some []⟩, ⟨"B", none⟩,
      ⟨"A", some " 7 // seven".toList⟩] := by
    decide +kernel
  have hread : fromHeader defaultLead text = .ok pairs := by
    rw [fromHeader, htoggles]
    rfl
  exact ⟨hread, overrides_of_fromHeader hread⟩

end FeatureCert.Selection
