import FeatureCert.Document.Shape
import FeatureCert.Proofs.Lookup
import FeatureCert.Proofs.Outcomes
import FeatureCert.Proofs.Written
import Mathlib.Data.List.Nodup

/-!
Checks that succeed. A check of several parts gives a result exactly where each part gives its own, and a
shape reads a value without tags exactly where the value is what the shape reads.
-/
namespace FeatureCert

open FeatureCert.Text

theorem Identifier.toNat_lt_of_isPart {c : Char} (h : isPart c = true) : c.toNat < 128 := by
  rcases Bool.or_eq_true_iff.1 h with hword | hscore
  · rcases Bool.or_eq_true_iff.1 hword with hletter | hdigit
    · have hbounds := letter_bounds hletter
      omega
    · have hbounds := Numeral.isDigit_iff.1 hdigit
      omega
  · cases eq_of_beq hscore
    decide

/-- The value of a key's first entry. -/
def FirstOf {κ β : Type} (entries : List (κ × β)) (key : κ) (v : β) : Prop :=
  ∃ before after, entries = before ++ (key, v) :: after ∧ ∀ e ∈ before, e.1 ≠ key

/-- What is made of the value that is given, and where none is, the default. -/
def GivenOr {α : Type} (Given : Value → Prop) (Of : Value → α → Prop) (default a : α) : Prop :=
  (∃ v, Given v ∧ Of v a) ∨ (∀ v, ¬ Given v) ∧ a = default

theorem givenOr_iff {α : Type} {Given : Value → Prop} {Of : Value → α → Prop} {default a : α}
    {x : Option Value} (hx : ∀ v, x = some v ↔ Given v) :
    GivenOr Given Of default a ↔ x.elim (a = default) fun v => Of v a := by
  simp only [GivenOr, ← hx]
  cases x <;> simp

/-- A test that is true of one key alone finds the key's first entry. -/
theorem find?_eq_some_iff_firstOf {κ β : Type} {entries : List (κ × β)} {key : κ} {v : β} {isKey : κ → Bool}
    (hkey : ∀ k, isKey k = true ↔ k = key) :
    (entries.find? (isKey ·.1)).map (·.2) = some v ↔ FirstOf entries key v := by
  simp only [Option.map_eq_some_iff, List.find?_eq_some_iff_append, hkey, Bool.not_eq_true', ← Bool.not_eq_true,
    FirstOf]
  constructor
  · rintro ⟨⟨_, _⟩, ⟨rfl, before, after, rfl, hbefore⟩, rfl⟩
    exact ⟨before, after, rfl, hbefore⟩
  · rintro ⟨before, after, rfl, hbefore⟩
    exact ⟨(key, v), ⟨rfl, before, after, rfl, hbefore⟩, rfl⟩

namespace Document

namespace Checked

variable {α β : Type} {x : Checked α} {a : α} {b : β}

@[simp] theorem fail_ne_good {kind : IssueKind} : fail kind ≠ .good a := nofun

theorem map_eq_good_iff {f : α → β} : f <$> x = .good b ↔ ∃ a, x = .good a ∧ f a = b := by
  cases x with
  | good a => exact ⟨fun h => ⟨a, rfl, good.inj h⟩, by rintro ⟨_, ⟨⟩, rfl⟩; rfl⟩
  | bad issues => exact iff_of_false nofun (by rintro ⟨_, ⟨⟩, _⟩)

theorem seq_eq_good_iff {f : Checked (α → β)} :
    f <*> x = .good b ↔ ∃ g, f = .good g ∧ ∃ a, x = .good a ∧ g a = b := by
  change seq f x = _ ↔ _
  cases f <;> cases x <;> simp [seq]

/-- A check of parts side by side, one part after the other. -/
theorem exists_map_good {f : α → β} {P : β → Prop} :
    (∃ b, f <$> x = .good b ∧ P b) ↔ ∃ a, x = .good a ∧ P (f a) := by
  simp [map_eq_good_iff]

theorem exists_seq_good {f : Checked (α → β)} {P : β → Prop} :
    (∃ b, f <*> x = .good b ∧ P b) ↔ ∃ g, f = .good g ∧ ∃ a, x = .good a ∧ P (g a) := by
  simp only [seq_eq_good_iff]
  constructor
  · rintro ⟨_, ⟨g, hg, a, ha, rfl⟩, hP⟩
    exact ⟨g, hg, a, ha, hP⟩
  · rintro ⟨g, hg, a, ha, hP⟩
    exact ⟨_, ⟨g, hg, a, ha, rfl⟩, hP⟩

theorem seqLeft_eq_good_iff {y : Checked β} :
    x <* y = .good a ↔ x = .good a ∧ ∃ b, y = .good b := by
  change seq (map (Function.const β) x) y = _ ↔ _
  cases x <;> cases y <;> simp [seq, map]

@[simp] theorem under_eq_good_iff {step : Step} : x.under step = .good a ↔ x = .good a := by
  cases x <;> simp [under]

@[simp] theorem andThen_eq_good_iff {f : α → Checked β} :
    x.andThen f = .good b ↔ ∃ a, x = .good a ∧ f a = .good b := by
  cases x <;> simp [andThen]

variable {check : α → Checked β} {items : List α} {results : List β}

/-- A check of several parts is good where each of them is, and gives what each gives in order. -/
theorem all_eq_good_iff :
    all check items = .good results ↔ List.Forall₂ (fun a b => check a = .good b) items results := by
  induction items generalizing results with
  | nil => cases results <;> simp [all]
  | cons a rest ih =>
    change List.cons <$> check a <*> all check rest = _ ↔ _
    simp only [seq_eq_good_iff, map_eq_good_iff, ih, List.forall₂_cons_left_iff]
    constructor
    · rintro ⟨_, ⟨b, hb, rfl⟩, bs, hbs, rfl⟩
      exact ⟨b, bs, hb, hbs, rfl⟩
    · rintro ⟨b, bs, hb, hbs, rfl⟩
      exact ⟨_, ⟨b, hb, rfl⟩, bs, hbs, rfl⟩

theorem indexed_eq_good_iff :
    indexed check items = .good results ↔
      List.Forall₂ (fun a b => check a = .good b) items results := by
  have hitems : List.Forall₂ (fun a b => check a = .good b) (items.zipIdx.map Prod.fst) results ↔ _ :=
    List.forall₂_map_left_iff
  rw [List.zipIdx_map_fst] at hitems
  simp [indexed, all_eq_good_iff, hitems]

end Checked

/-- A text that is not empty and holds no half. -/
def Proper (s : String) : Prop := s ≠ "" ∧ hasHalf s = false

/-- A value that is taken as a text: a text, or the octets of one. -/
inductive TextOf : Value → String → Prop where
  | text (s : String) : TextOf (.text s) s
  | octets (h : textOfOctets? octets = some s) : TextOf (.bytes octets) s

inductive OpenTextOf : Value → Option String → Prop where
  | null : OpenTextOf .null none
  | text (h : TextOf v s) : OpenTextOf v (some s)

/-- Entries of a table with texts as keys. -/
def entriesOf (fields : List (String × Value)) : List (Value × Value) :=
  fields.map fun f => (.text f.1, f.2)

/-- The values of a document without tags: a table has texts as keys, each of them once. -/
inductive Plain : Value → Prop where
  | null : Plain .null
  | bool (b : Bool) : Plain (.bool b)
  | int (n : Int) : Plain (.int n)
  | float (x : Binary64) : Plain (.float x)
  | text (s : String) : Plain (.text s)
  | list {items : List Value} (h : ∀ v ∈ items, Plain v) : Plain (.list items)
  | table {fields : List (String × Value)} (hnodup : (fields.map (·.1)).Nodup)
      (h : ∀ f ∈ fields, Plain f.2) : Plain (.dict (entriesOf fields))

section Tables

variable {fields : List (String × Value)} {key : String} {v w : Value}

theorem entriesOf_injective : Function.Injective entriesOf := by
  apply List.map_injective_iff.2
  rintro ⟨key, v⟩ ⟨other, w⟩ h
  simpa using h

theorem Plain.nodup (h : Plain (.dict (entriesOf fields))) : (fields.map (·.1)).Nodup := by
  generalize hentries : entriesOf fields = entries at h
  cases h with
  | table hnodup => rwa [entriesOf_injective hentries]

theorem Plain.of_mem (h : Plain (.dict (entriesOf fields))) (hmem : (key, v) ∈ fields) : Plain v := by
  generalize hentries : entriesOf fields = entries at h
  cases h with
  | table _ hfields =>
    rw [entriesOf_injective hentries] at hmem
    exact hfields _ hmem

theorem Plain.eq_of_mem (h : Plain (.dict (entriesOf fields))) (hv : (key, v) ∈ fields)
    (hw : (key, w) ∈ fields) : v = w := by
  have hsame := List.inj_on_of_nodup_map h.nodup hv hw rfl
  exact congrArg Prod.snd hsame

theorem Plain.of_member {items : List Value} (h : Plain (.list items)) (hmem : v ∈ items) : Plain v := by
  cases h with
  | list hitems => exact hitems v hmem

/-- In a table whose keys differ, a look-up and membership tell the same. -/
theorem lookup?_entriesOf_eq_some_iff (h : Plain (.dict (entriesOf fields))) :
    Value.lookup? (.text key) (entriesOf fields) = some v ↔ (key, v) ∈ fields := by
  have hsame : ((fun e : Value × Value => Value.sameKey e.1 (.text key)) ∘ fun f : String × Value =>
      (Value.text f.1, f.2)) = fun f => f.1 == key := by
    funext f
    simp [Value.sameKey]
  rw [Value.lookup?, entriesOf, List.find?_map, hsame]
  simp [find?_key_eq_some_iff h.nodup]

theorem lookup?_entriesOf_eq_none_iff (h : Plain (.dict (entriesOf fields))) :
    Value.lookup? (.text key) (entriesOf fields) = none ↔ ∀ v, (key, v) ∉ fields := by
  rw [Option.eq_none_iff_forall_ne_some]
  exact forall_congr' fun v => not_congr (lookup?_entriesOf_eq_some_iff h)

/-- A table is read by its fields, once its keys hold no half. -/
theorem record_entriesOf {read : List (Value × Value) → Checked α} {a : α} :
    record read (.dict (entriesOf fields)) = .good a ↔
      (∀ f ∈ fields, hasHalf f.1 = false) ∧ read (entriesOf fields) = .good a := by
  change record.wholeKeys (entriesOf fields) (fun _ => read (entriesOf fields)) = _ ↔ _
  unfold record.wholeKeys
  dsimp only
  split
  · next hbroken =>
    obtain ⟨e, he, hhalf⟩ := List.any_eq_true.1 hbroken
    obtain ⟨f, hf, rfl⟩ := List.mem_map.1 he
    exact iff_of_false nofun fun h => Bool.eq_false_iff.1 (h.1 f hf) hhalf
  · next hwhole =>
    rw [iff_and_self]
    rintro - f hf
    rw [Bool.not_eq_true, List.any_eq_false] at hwhole
    exact Bool.eq_false_iff.2 (hwhole _ (List.mem_map_of_mem hf))

/-- A record is a table whose keys hold no half, read by its entries. -/
theorem record_eq_good_iff {read : List (Value × Value) → Checked α} {a : α} (h : Plain v) :
    record read v = .good a ↔ ∃ fields, v = .dict (entriesOf fields) ∧
      (∀ f ∈ fields, hasHalf f.1 = false) ∧ read (entriesOf fields) = .good a := by
  cases h with
  | @table fields _ _ =>
    rw [record_entriesOf]
    constructor
    · exact fun hread => ⟨fields, rfl, hread⟩
    · rintro ⟨own, hown, hread⟩
      rwa [entriesOf_injective (Value.dict.inj hown)]
  | _ => exact iff_of_false nofun (by rintro ⟨_, ⟨⟩, _⟩)

/-- A field that must be there stands in the table with a value that fits. -/
theorem required_eq_good_iff {shape : Shape α} {a : α} (h : Plain (.dict (entriesOf fields))) :
    required (entriesOf fields) key shape = .good a ↔ ∃ v, (key, v) ∈ fields ∧ shape v = .good a := by
  rw [required]
  cases hlookup : Value.lookup? (.text key) (entriesOf fields) with
  | none =>
    rw [lookup?_entriesOf_eq_none_iff h] at hlookup
    exact iff_of_false nofun fun ⟨v, hv, _⟩ => hlookup v hv
  | some v =>
    rw [lookup?_entriesOf_eq_some_iff h] at hlookup
    simp only [Checked.under_eq_good_iff]
    constructor
    · exact fun hshape => ⟨v, hlookup, hshape⟩
    · rintro ⟨w, hw, hshape⟩
      rwa [h.eq_of_mem hlookup hw]

/-- A field that is left out has its default; one that does not fit is no default. -/
theorem optional_eq_good_iff {shape : Shape α} {a default : α}
    (h : Plain (.dict (entriesOf fields))) :
    optional (entriesOf fields) key default shape = .good a ↔
      (∃ v, (key, v) ∈ fields ∧ shape v = .good a) ∨ (∀ v, (key, v) ∉ fields) ∧ a = default := by
  rw [optional]
  cases hlookup : Value.lookup? (.text key) (entriesOf fields) with
  | none =>
    rw [lookup?_entriesOf_eq_none_iff h] at hlookup
    simp [hlookup, eq_comm]
  | some v =>
    rw [lookup?_entriesOf_eq_some_iff h] at hlookup
    simp only [Checked.under_eq_good_iff]
    constructor
    · exact fun hshape => .inl ⟨v, hlookup, hshape⟩
    · rintro (⟨w, hw, hshape⟩ | ⟨hnone, _⟩)
      · rwa [h.eq_of_mem hlookup hw]
      · exact absurd hlookup (hnone v)

/-- Keys that are known hold no half if the known ones hold none. -/
theorem hasHalf_of_known {known : List String} (hknown : ∀ key ∈ known, hasHalf key = false)
    (h : ∀ f ∈ fields, f.1 ∈ known) : ∀ f ∈ fields, hasHalf f.1 = false :=
  fun f hf => hknown _ (h f hf)

/-- A table is closed if all its keys are known. -/
theorem closed_eq_good_iff {known : List String} :
    closed (entriesOf fields) known = .good () ↔ ∀ f ∈ fields, f.1 ∈ known := by
  have hnone : (entriesOf fields).filterMap (fun e => extraIssue? known e.1) = [] ↔
      ∀ f ∈ fields, f.1 ∈ known := by
    rw [List.filterMap_eq_nil_iff, entriesOf, List.forall_mem_map]
    simp [extraIssue?]
  rw [← hnone, closed]
  cases (entriesOf fields).filterMap fun e => extraIssue? known e.1 <;> simp

end Tables

section Shapes

variable {v : Value} {s : String}

theorem text_eq_good_iff (h : Plain v) : text v = .good s ↔ v = .text s := by
  cases h <;> simp [text]

theorem wholeText_eq_good_iff {t : String} : wholeText s = .good t ↔ hasHalf s = false ∧ s = t := by
  cases h : hasHalf s <;> simp [wholeText, h]

theorem nonEmptyText_eq_good_iff (h : Plain v) : nonEmptyText v = .good s ↔ v = .text s ∧ Proper s := by
  simp only [nonEmptyText, Checked.andThen_eq_good_iff, text_eq_good_iff h, wholeText_eq_good_iff]
  constructor
  · rintro ⟨_, ⟨_, rfl, hhalf, rfl⟩, hgood⟩
    split at hgood
    · cases hgood
    · next hempty =>
      cases hgood
      exact ⟨rfl, by simpa using hempty, hhalf⟩
  · rintro ⟨rfl, hempty, hhalf⟩
    exact ⟨s, ⟨s, rfl, hhalf, rfl⟩, if_neg (by simpa using hempty)⟩

/-- One of several texts is taken only as a text, and never out of octets. -/
theorem choice_eq_good_iff {issue : IssueKind} {read? : String → Option α} {a : α} :
    choice issue read? v = .good a ↔ ∃ s, v = .text s ∧ hasHalf s = false ∧ read? s = some a := by
  cases v with
  | text s =>
    simp only [choice, Checked.andThen_eq_good_iff, wholeText_eq_good_iff, Value.text.injEq,
      exists_eq_left', and_assoc, exists_and_left]
    refine and_congr_right fun _ => ?_
    cases read? s <;> simp
  | _ => simp [choice]

theorem literal_eq_good_iff {expected : String} {u : Unit} :
    literal expected v = .good u ↔ v = .text expected ∧ hasHalf expected = false := by
  rw [literal, choice_eq_good_iff]
  constructor
  · rintro ⟨s, rfl, hhalf, hread⟩
    split at hread
    · next hs =>
      rw [beq_iff_eq] at hs
      exact ⟨by rw [hs], by rwa [← hs]⟩
    · cases hread
  · rintro ⟨rfl, hhalf⟩
    exact ⟨expected, rfl, hhalf, by simp⟩

theorem strictInt_eq_good_iff {n : Int} : strictInt v = .good n ↔ v = .int n := by
  cases v <;> simp [strictInt]

/-- The value of a text that may be left open. -/
def openText : Option String → Value
  | none => .null
  | some s => .text s

theorem nullable_text_eq_good_iff {o : Option String} (h : Plain v) :
    nullable text v = .good o ↔ v = openText o := by
  cases h with
  | null => cases o <;> simp [nullable, openText]
  | _ =>
    change some <$> text _ = _ ↔ _
    cases o <;> simp [Checked.map_eq_good_iff, text, openText]

theorem text_eq_good_iff_textOf : text v = .good s ↔ TextOf v s := by
  cases v with
  | text t =>
    constructor
    · intro h
      cases h
      exact .text s
    · intro h
      cases h
      rfl
  | bytes octets =>
    rw [text]
    cases hoctets : textOfOctets? octets with
    | none =>
      refine iff_of_false nofun fun h => ?_
      cases h with
      | octets h => rw [h] at hoctets; cases hoctets
    | some t =>
      constructor
      · intro h
        cases h
        exact .octets hoctets
      · intro h
        cases h with
        | octets h => rw [h] at hoctets; cases hoctets; rfl
  | _ => exact iff_of_false nofun nofun

theorem nullable_text_eq_good_iff_openTextOf {o : Option String} :
    nullable text v = .good o ↔ OpenTextOf v o := by
  cases v with
  | null =>
    constructor
    · rintro ⟨⟩
      exact .null
    · rintro (_ | ⟨⟨⟩⟩)
      rfl
  | _ =>
    change some <$> text _ = _ ↔ _
    simp only [Checked.map_eq_good_iff, text_eq_good_iff_textOf]
    constructor
    · rintro ⟨s, hs, rfl⟩
      exact .text hs
    · intro h
      cases h with
      | text hs => exact ⟨_, hs, rfl⟩

/-- A list fits where each of its members does. -/
theorem listOf_eq_good_iff {shape : Shape α} {results : List α} (h : Plain v) :
    listOf shape v = .good results ↔
      ∃ items, v = .list items ∧ List.Forall₂ (fun v a => shape v = .good a) items results := by
  rw [listOf]
  cases h with
  | list h => simp [members?, Value.opened, Checked.indexed_eq_good_iff]
  | _ => simp [members?, Value.opened]

theorem forall₂_text_iff {items : List Value} {texts : List String} (h : ∀ v ∈ items, Plain v) :
    List.Forall₂ (fun v s => text v = .good s) items texts ↔ items = texts.map .text := by
  rw [forall₂_congr_of_mem fun v hv s => text_eq_good_iff (h v hv), ← List.forall₂_eq_eq_eq,
    List.forall₂_map_right_iff]

/-- Where no member is a text, a fixed sequence is no good, even an empty one. -/
theorem someOf_text_eq_good_iff {texts : List String} (h : Plain v) :
    someOf text v = .good texts ↔ v = .list (texts.map .text) ∧ texts ≠ [] := by
  cases h with
  | @list items hitems =>
    have hindexed : Checked.indexed text items = .good texts ↔ items = texts.map .text :=
      Checked.indexed_eq_good_iff.trans (forall₂_text_iff hitems)
    simp only [someOf, members?, Value.opened, Value.list.injEq]
    split
    · next hnone =>
      rw [List.countP_eq_zero] at hnone
      refine iff_of_false (fun hgood => ?_) ?_
      · cases hall : Checked.indexed text items <;> rw [hall] at hgood <;> cases hgood
      · rintro ⟨rfl, hne⟩
        obtain ⟨s, rest, rfl⟩ := List.exists_cons_of_ne_nil hne
        exact hnone (.text s) (by simp) rfl
    · next hsome =>
      rw [hindexed, iff_self_and]
      rintro rfl rfl
      exact hsome rfl
  | _ => simp [someOf, members?, Value.opened]

/-- Identifiers are ASCII, and so hold no half. -/
theorem hasHalf_of_isValid (h : Identifier.isValid s.toList = true) : hasHalf s = false := by
  rw [hasHalf, List.any_eq_false]
  intro c hc
  have hsmall := Identifier.toNat_lt_of_isPart (Identifier.isPart_of_mem h hc)
  have hlow : ¬ halfStart ≤ c.toNat := by
    rw [halfStart]
    omega
  simp [isHalf, hlow]

theorem identifier_eq_good_iff (h : Plain v) :
    identifier v = .good s ↔ v = .text s ∧ Identifier.isValid s.toList = true := by
  simp only [identifier, Checked.andThen_eq_good_iff, nonEmptyText_eq_good_iff h]
  constructor
  · rintro ⟨t, ⟨rfl, _⟩, hgood⟩
    split at hgood
    · next hvalid =>
      cases hgood
      exact ⟨rfl, hvalid⟩
    · cases hgood
  · rintro ⟨rfl, hvalid⟩
    refine ⟨s, ⟨rfl, ?_, hasHalf_of_isValid hvalid⟩, if_pos hvalid⟩
    rintro rfl
    cases hvalid

/-- A name of a member is taken as a text; it may stand in octets only where values have tags. -/
theorem member_eq_good_iff {read? : String → Option α} {a : α} (h : Plain v) :
    member read? v = .good a ↔ ∃ s, v = .text s ∧ hasHalf s = false ∧ read? s = some a := by
  have hchoice : member read? v = choice .enumValue read? v := by
    cases h <;> rfl
  rw [hchoice, choice_eq_good_iff]

/-- A record is read in the form that its kind names. -/
theorem tagged_entriesOf {κ : Type} {read? : String → Option κ} {name : κ → String}
    {form : κ → List (Value × Value) → Checked α} {fields : List (String × Value)} {a : α}
    (h : Plain (.dict (entriesOf fields))) :
    tagged read? name form (.dict (entriesOf fields)) = .good a ↔
      ∃ tag kind, ("kind", .text tag) ∈ fields ∧ hasHalf tag = false ∧ read? tag = some kind ∧
        (∀ f ∈ fields, hasHalf f.1 = false) ∧ form kind (entriesOf fields) = .good a := by
  simp only [tagged, entries?, Value.opened]
  cases hlookup : Value.lookup? (.text "kind") (entriesOf fields) with
  | none =>
    rw [lookup?_entriesOf_eq_none_iff h] at hlookup
    exact iff_of_false nofun fun ⟨tag, _, htag, _⟩ => hlookup _ htag
  | some v =>
    rw [lookup?_entriesOf_eq_some_iff h] at hlookup
    simp only [Checked.andThen_eq_good_iff, Checked.under_eq_good_iff, choice_eq_good_iff,
      record_entriesOf]
    constructor
    · rintro ⟨kind, ⟨tag, rfl, hhalf, hkind⟩, hread⟩
      exact ⟨tag, kind, hlookup, hhalf, hkind, hread⟩
    · rintro ⟨tag, kind, htag, hhalf, hkind, hread⟩
      exact ⟨kind, ⟨tag, h.eq_of_mem hlookup htag, hhalf, hkind⟩, hread⟩

/-- Whatever its kind, a tagged record is a table. -/
theorem tagged_eq_good_iff {κ : Type} {read? : String → Option κ} {name : κ → String}
    {form : κ → List (Value × Value) → Checked α} {a : α} (h : Plain v) :
    tagged read? name form v = .good a ↔
      ∃ fields, v = .dict (entriesOf fields) ∧
        tagged read? name form (.dict (entriesOf fields)) = .good a := by
  cases h with
  | @table fields =>
    constructor
    · exact fun hread => ⟨fields, rfl, hread⟩
    · rintro ⟨own, hown, hread⟩
      rwa [hown]
  | _ => exact iff_of_false nofun (by rintro ⟨_, ⟨⟩, _⟩)

end Shapes

end Document
end FeatureCert
