import FeatureCert.Proofs.Outcomes
import FeatureCert.Proofs.Printed
import FeatureCert.Proofs.Written
import FeatureCert.Value.Text

/-!
Texts of one line. Whatever is written for a number, a date, a quoted text or a container of these has no
line break in it, since quoting escapes breaks; only a text that stands for itself can bring one in.
-/
namespace FeatureCert

open FeatureCert.Text FeatureCert.Numeral

namespace Text

variable {a b sep : String} {cs : List Char} {parts : List String} {c quote : Char}

def OneLine (text : String) : Prop := '\n' ∉ text.toList

instance (text : String) : Decidable (OneLine text) := inferInstanceAs (Decidable (_ ∉ _))

@[simp] theorem oneLine_append : OneLine (a ++ b) ↔ OneLine a ∧ OneLine b := by
  simp [OneLine]

@[simp] theorem oneLine_ofList : OneLine (String.ofList cs) ↔ '\n' ∉ cs := by
  rw [OneLine, String.toList_ofList]

@[simp] theorem oneLine_empty : OneLine "" := by decide

/-- A text between others in a template stands for itself. -/
@[simp] theorem oneLine_toString : OneLine (toString a) ↔ OneLine a := Iff.rfl

theorem oneLine_intercalate (hsep : OneLine sep) :
    OneLine (sep.intercalate parts) ↔ ∀ part ∈ parts, OneLine part := by
  induction parts with
  | nil => simp
  | cons part rest ih =>
    cases rest with
    | nil => simp
    | cons next last =>
      rw [String.intercalate_cons_cons, oneLine_append, oneLine_append, ih, List.forall_mem_cons]
      simp [hsep]

/-- Texts set off by commas. -/
@[simp] theorem oneLine_commas : OneLine (", ".intercalate parts) ↔ ∀ part ∈ parts, OneLine part :=
  oneLine_intercalate (by decide)

/-- A list in brackets. -/
theorem oneLine_bracketed (ha : OneLine a) (hb : OneLine b) (h : ∀ part ∈ parts, OneLine part) :
    OneLine (a ++ ", ".intercalate parts ++ b) := by
  simpa [ha, hb] using h

theorem IsPlain.oneLine (h : IsPlain a) : OneLine a :=
  fun hmem => absurd (h _ hmem).1 (by decide)

theorem break_notMem_toDigits {base : Nat} (hbase : 1 < base) (n : Nat) : '\n' ∉ Nat.toDigits base n := by
  intro hbreak
  obtain ⟨d, _, hd⟩ := exists_digitChar_of_mem hbase hbreak
  simp at hd

theorem break_notMem_hexPadded (width n : Nat) : '\n' ∉ hexPadded width n := by
  simp [hexPadded, @break_notMem_toDigits 16 (by decide)]

theorem break_notMem_escapeCode (n : Nat) : '\n' ∉ escapeCode n := by
  unfold escapeCode
  split_ifs <;> simp [break_notMem_hexPadded]

/-- The one character that breaks a line is escaped by another. -/
theorem break_notMem_escape (hquote : quote ≠ '\n') (c : Char) : '\n' ∉ escape quote c := by
  by_cases hc : c = '\n'
  · subst hc
    have hplain : ('\n' == quote) = false := by simpa using hquote.symm
    simp [escape, hplain]
  · unfold escape
    split_ifs <;> simp [Ne.symm hc, break_notMem_escapeCode]

theorem quoteFor_ne_break (cs : List Char) : quoteFor cs ≠ '\n' := by
  unfold quoteFor
  split <;> decide

theorem oneLine_quoted (s : String) : OneLine (quoted s) := by
  have hquote := quoteFor_ne_break s.toList
  simp only [quoted, oneLine_ofList, List.mem_append, List.mem_cons, List.mem_flatMap, not_or,
    not_exists, not_and]
  exact ⟨⟨hquote.symm, fun c _ => break_notMem_escape hquote c⟩, hquote.symm, List.not_mem_nil⟩

/-- Bytes outside visible ASCII are escaped, the line feed among them. -/
theorem oneLine_quotedBytes (bytes : List Nat) : OneLine (quotedBytes bytes) := by
  have hquote := quoteFor_ne_break (bytes.map Char.ofNat)
  have hwritten (c : Char) : '\n' ∉ (if 127 ≤ c.toNat then '\\' :: 'x' :: hexPadded 2 c.toNat
      else escape (quoteFor (bytes.map Char.ofNat)) c) := by
    split
    · simp [break_notMem_hexPadded]
    · exact break_notMem_escape hquote c
  simp only [quotedBytes, oneLine_ofList, List.mem_append, List.mem_cons, List.mem_flatMap, not_or,
    not_exists, not_and]
  exact ⟨⟨by decide, hquote.symm, fun c _ => hwritten c⟩, hquote.symm, List.not_mem_nil⟩

end Text

namespace Identifier

theorem oneLine_of_isValid {name : String} (h : isValid name.toList = true) : OneLine name :=
  fun hbreak => absurd (isPart_of_mem h hbreak) (by decide)

end Identifier

namespace Numeral

@[simp] theorem oneLine_nat (n : Nat) : OneLine n.repr := (isPlain_toString n).oneLine

@[simp] theorem oneLine_int (n : Int) : OneLine n.repr := by
  intro hbreak
  rcases digit_or_minus_of_mem hbreak with h | h <;> exact absurd h (by decide)

@[simp] theorem oneLine_padded (width n : Nat) : OneLine (padded width n) := by
  simp [padded, @break_notMem_toDigits 10 (by decide)]

theorem oneLine_decimal {n : Int} {text : String} (h : decimal n = .ok text) : OneLine text := by
  unfold decimal at h
  split at h
  · cases h
    exact oneLine_int n
  · cases h

end Numeral

theorem Date.oneLine_text (d : Date) : OneLine d.text := by
  simp +decide [Date.text]

theorem Moment.oneLine_offsetText (seconds : Int) : OneLine (offsetText seconds) := by
  simp only [offsetText]
  split_ifs <;> simp +decide

theorem Moment.oneLine_text {separator : String} (h : OneLine separator) (t : Moment) :
    OneLine (t.text separator) := by
  have hoffset : OneLine ((t.offset.map offsetText).getD "") := by
    cases t.offset <;> simp [oneLine_offsetText]
  simp only [Moment.text]
  split <;> simp +decide [h, hoffset, Date.oneLine_text]

namespace Binary64

theorem break_notMem_stripZeros {digits : List Char} (h : '\n' ∉ digits) : '\n' ∉ stripZeros digits := by
  intro hbreak
  rw [stripZeros, List.mem_reverse] at hbreak
  exact h (List.mem_reverse.1 ((List.dropWhile_sublist _).subset hbreak))

theorem break_notMem_layout {digits : List Char} (h : '\n' ∉ digits) (point : Int) :
    '\n' ∉ layout digits point := by
  have hexponent : '\n' ∉ (padded 2 (point - 1).natAbs).toList := oneLine_padded _ _
  have hfront : '\n' ∉ digits.take point.natAbs := fun hmem => h (List.mem_of_mem_take hmem)
  have hback : '\n' ∉ digits.drop point.natAbs := fun hmem => h (List.mem_of_mem_drop hmem)
  simp only [layout]
  split
  · split_ifs <;> simp [h, hfront, hback]
  · generalize hsign : (if point - 1 < 0 then '-' else '+') = sign
    have hplain : '\n' ≠ sign := by
      rw [← hsign]
      split <;> decide
    match digits with
    | [] => simp [hplain, hexponent]
    | [d] => simpa [hplain, hexponent] using h
    | d :: next :: rest => simpa [hplain, hexponent] using h

theorem oneLine_text (x : Binary64) : OneLine x.text := by
  cases x with
  | nan => decide
  | infinite negative => cases negative <;> decide
  | finite negative m e =>
    have hdigits (n : Nat) : '\n' ∉ stripZeros (Nat.toDigits 10 n) :=
      break_notMem_stripZeros (break_notMem_toDigits (by decide) n)
    simp only [text, oneLine_ofList]
    split_ifs <;> simp [break_notMem_layout (hdigits _)]

end Binary64

namespace Value

theorem oneLine_inspectOffset (seconds : Int) : OneLine (inspectOffset seconds) := by
  simp only [inspectOffset]
  split_ifs <;> simp +decide

theorem oneLine_inspectMoment (t : Moment) : OneLine (inspectMoment t) := by
  have hnumbers (ns : List Nat) : ∀ part ∈ ns.map toString, OneLine part :=
    List.forall_mem_map.2 fun n _ => oneLine_nat n
  refine oneLine_bracketed (by decide) (by decide) (List.forall_mem_append.2 ⟨hnumbers _, ?_⟩)
  cases t.offset with
  | none => exact nofun
  | some seconds => simp +decide [oneLine_inspectOffset]

theorem oneLine_stateParts {s : State} {parts : List String} (h : stateParts s = .ok parts) :
    ∀ part ∈ parts, OneLine part := by
  have hswitch (b : Bool) : OneLine (switchText b) := by cases b <;> decide
  unfold stateParts at h
  split at h
  · cases h
    simp +decide [hswitch]
  · obtain ⟨number, hnumber, hparts⟩ := bind_eq_ok_iff.1 h
    cases hparts
    simp +decide [hswitch, oneLine_decimal hnumber]

theorem oneLine_dots (v : Value) : OneLine (dots v) := by
  unfold dots
  split <;> decide

theorem oneLine_of_lookup {around : List (Nat × String)} (haround : ∀ p ∈ around, OneLine p.2)
    {label : Nat} {brackets : String} (h : around.lookup label = some brackets) : OneLine brackets := by
  obtain ⟨before, after, rfl, _⟩ := List.lookup_eq_some_iff.1 h
  exact haround (label, brackets) (by simp)

mutual

/-- Text that shows a value's kind is one line, if the texts for the containers around it are. -/
theorem oneLine_inspectIn {around : List (Nat × String)} {text : String}
    (haround : ∀ p ∈ around, OneLine p.2) (v : Value) (h : inspectIn around v = .ok text) : OneLine text := by
  -- Along the recursion of the text: what stands between the parts is one line, and a container that holds
  -- itself adds its dots to the texts around.
  cases v with
  | null =>
    cases h
    decide
  | bool b =>
    cases h
    cases b <;> decide
  | int n => exact oneLine_decimal h
  | float x =>
    cases h
    exact x.oneLine_text
  | text s =>
    cases h
    exact oneLine_quoted s
  | list items =>
    obtain ⟨parts, hparts, hrest⟩ := bind_eq_ok_iff.1 h
    cases hrest
    exact oneLine_bracketed (by decide) (by decide) (oneLine_inspectAll haround items hparts)
  | dict entries =>
    obtain ⟨parts, hparts, hrest⟩ := bind_eq_ok_iff.1 h
    cases hrest
    exact oneLine_bracketed (by decide) (by decide) (oneLine_inspectEntries haround entries hparts)
  | date d =>
    cases h
    simp +decide
  | moment t =>
    cases h
    exact oneLine_inspectMoment t
  | bytes octets =>
    cases h
    exact oneLine_quotedBytes octets
  | tuple items =>
    obtain ⟨parts, hparts, hrest⟩ := bind_eq_ok_iff.1 h
    have hall := oneLine_inspectAll haround items hparts
    cases hrest
    split
    · next part =>
      simpa +decide using hall
    · exact oneLine_bracketed (by decide) (by decide) hall
  | set items =>
    obtain ⟨parts, hparts, hrest⟩ := bind_eq_ok_iff.1 h
    have hall := oneLine_inspectAll haround items hparts
    cases hrest
    split
    · decide
    · exact oneLine_bracketed (by decide) (by decide) hall
  | state s =>
    obtain ⟨parts, hparts, hrest⟩ := bind_eq_ok_iff.1 h
    cases hrest
    exact oneLine_bracketed (by decide) (by decide) (oneLine_stateParts hparts)
  | knot label whole =>
    rw [inspectIn] at h
    cases hlabel : around.lookup label with
    | some brackets =>
      rw [hlabel] at h
      cases h
      exact oneLine_of_lookup haround hlabel
    | none =>
      rw [hlabel] at h
      have hmore : ∀ p ∈ (label, dots whole) :: around, OneLine p.2 := by
        simpa [oneLine_dots] using haround
      exact oneLine_inspectIn hmore whole h
  | again label =>
    cases h
    cases hlabel : around.lookup label with
    | some brackets => exact oneLine_of_lookup haround hlabel
    | none => decide

/-- The texts of the containers around may be shown again inside, so that they are asked to be on one line. -/
theorem oneLine_inspectAll {around : List (Nat × String)} {parts : List String}
    (haround : ∀ p ∈ around, OneLine p.2) (vs : List Value) (h : inspectAll around vs = .ok parts) :
    ∀ part ∈ parts, OneLine part := by
  cases vs with
  | nil =>
    cases h
    exact nofun
  | cons v rest =>
    obtain ⟨part, hpart, h⟩ := bind_eq_ok_iff.1 h
    obtain ⟨others, hothers, hrest⟩ := bind_eq_ok_iff.1 h
    cases hrest
    exact List.forall_mem_cons.2
      ⟨oneLine_inspectIn haround v hpart, oneLine_inspectAll haround rest hothers⟩

theorem oneLine_inspectEntries {around : List (Nat × String)} {parts : List String}
    (haround : ∀ p ∈ around, OneLine p.2) (entries : List (Value × Value))
    (h : inspectEntries around entries = .ok parts) : ∀ part ∈ parts, OneLine part := by
  cases entries with
  | nil =>
    cases h
    exact nofun
  | cons e rest =>
    cases e with
    | mk k v =>
      obtain ⟨key, hkey, h⟩ := bind_eq_ok_iff.1 h
      obtain ⟨item, hitem, h⟩ := bind_eq_ok_iff.1 h
      obtain ⟨others, hothers, hrest⟩ := bind_eq_ok_iff.1 h
      cases hrest
      have hentry : OneLine (key ++ ": " ++ item) := by
        simp +decide [oneLine_inspectIn haround k hkey, oneLine_inspectIn haround v hitem]
      exact List.forall_mem_cons.2 ⟨hentry, oneLine_inspectEntries haround rest hothers⟩

end

theorem oneLine_inspect {v : Value} {text : String} (h : v.inspect = .ok text) : OneLine text :=
  oneLine_inspectIn (List.forall_mem_nil _) v h

/-- Only a text can be displayed with a break, its own. -/
theorem oneLine_display_iff {v : Value} {text : String} (h : v.display = .ok text) :
    OneLine text ↔ ∀ s, v = .text s → OneLine s := by
  cases v with
  | text s =>
    rw [← Except.ok.inj h]
    simp
  | date d =>
    rw [← Except.ok.inj h]
    exact iff_of_true d.oneLine_text nofun
  | moment t =>
    rw [← Except.ok.inj h]
    exact iff_of_true (t.oneLine_text (by decide)) nofun
  | state s =>
    obtain ⟨parts, hparts, hrest⟩ := bind_eq_ok_iff.1 h
    cases hrest
    exact iff_of_true ((oneLine_intercalate (by decide)).2 (oneLine_stateParts hparts)) nofun
  | _ =>
    simp only [display] at h
    exact iff_of_true (oneLine_inspect h) nofun

end Value
end FeatureCert
