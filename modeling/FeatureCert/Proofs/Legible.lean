import FeatureCert.Proofs.Fitting
import FeatureCert.Proofs.Outcomes
import FeatureCert.Proofs.Tables

/-!
When there is a verdict at all. The one thing that stops a run is a text that has to be written and cannot
be: a problem quotes the value that does not fit or the name that is unknown, and a number over the digit
limit has no decimal text.
-/
namespace FeatureCert

open FeatureCert.Numeral

theorem lookup_eq_none_iff_notMem {label : Nat} {around : List (Nat × α)} :
    around.lookup label = none ↔ label ∉ around.map (·.1) := by
  rw [List.lookup_eq_none_iff]
  constructor
  · intro h hmem
    obtain ⟨p, hp, he⟩ := List.mem_map.1 hmem
    exact absurd he.symm (by simpa using h p hp)
  · intro h p hp
    have hne : label ≠ p.1 := fun he => h (List.mem_map.2 ⟨p, hp, he.symm⟩)
    simpa using hne

theorem one_lt_ten_pow {k : Nat} (h : k ≠ 0) : 1 < Nat.pow 10 k := Nat.one_lt_pow h (by decide)

namespace Value

mutual

/-- Numbers that the text of a value writes out; `around` holds the labels of the containers around it. -/
def numbersIn (around : List Nat) : Value → List Int
  | .int n => [n]
  | .list items => numbersOfAll around items
  | .dict entries => numbersOfEntries around entries
  | .tuple items => numbersOfAll around items
  | .set items => numbersOfAll around items
  | .state s => s.value.toList
  | .knot label whole => if label ∈ around then [] else numbersIn (label :: around) whole
  | _ => []

def numbersOfAll (around : List Nat) : List Value → List Int
  | [] => []
  | v :: rest => numbersIn around v ++ numbersOfAll around rest

def numbersOfEntries (around : List Nat) : List (Value × Value) → List Int
  | [] => []
  | (k, v) :: rest => numbersIn around k ++ numbersIn around v ++ numbersOfEntries around rest

end

/-- Numbers that the text of a value writes out. -/
def numbers (v : Value) : List Int := numbersIn [] v

theorem decimal_ok_iff {n : Int} : (∃ text, decimal n = .ok text) ↔ Writable n := by
  by_cases h : Writable n
  · simp [decimal_of_writable h, h]
  · simp [decimal_of_not_writable h, h]

theorem stateParts_ok_iff {s : State} :
    (∃ parts, stateParts s = .ok parts) ↔ ∀ n ∈ s.value.toList, Writable n := by
  unfold stateParts
  cases hs : s.value with
  | none => exact iff_of_true ⟨_, rfl⟩ (by simp)
  | some n => simp [exists_ok_map, decimal_ok_iff]

mutual

/-- A value has a text exactly where all its numbers have one. -/
theorem inspectIn_ok_iff (around : List (Nat × String)) (v : Value) :
    (∃ text, inspectIn around v = .ok text) ↔
      ∀ n ∈ numbersIn (around.map (·.1)) v, Writable n := by
  cases v with
  | int n => simp [inspectIn, numbersIn, decimal_ok_iff]
  | list items => simpa [inspectIn, numbersIn, exists_ok_map] using inspectAll_ok_iff around items
  | dict entries =>
    simpa [inspectIn, numbersIn, exists_ok_map] using inspectEntries_ok_iff around entries
  | tuple items => simpa [inspectIn, numbersIn, exists_ok_map] using inspectAll_ok_iff around items
  | set items => simpa [inspectIn, numbersIn, exists_ok_map] using inspectAll_ok_iff around items
  | state s => simpa [inspectIn, numbersIn, exists_ok_map] using stateParts_ok_iff
  | knot label whole =>
    cases hl : around.lookup label with
    | some brackets =>
      have hmem : label ∈ around.map (·.1) := by
        rw [← Decidable.not_not (p := label ∈ _), ← lookup_eq_none_iff_notMem, hl]
        simp
      rw [inspectIn, numbersIn, hl, if_pos hmem]
      simp
    | none =>
      have hnot : label ∉ around.map (·.1) := lookup_eq_none_iff_notMem.1 hl
      rw [inspectIn, numbersIn, hl, if_neg hnot]
      exact inspectIn_ok_iff ((label, dots whole) :: around) whole
  | _ => simp [inspectIn, numbersIn]

/-- A container has a text where all its members do; it is shown with its own label around them. -/
theorem inspectAll_ok_iff (around : List (Nat × String)) (vs : List Value) :
    (∃ parts, inspectAll around vs = .ok parts) ↔
      ∀ n ∈ numbersOfAll (around.map (·.1)) vs, Writable n := by
  cases vs with
  | nil => simp [inspectAll, numbersOfAll]
  | cons v rest =>
    rw [numbersOfAll, List.forall_mem_append, ← inspectIn_ok_iff around v,
      ← inspectAll_ok_iff around rest]
    simp [inspectAll, exists_ok_bind, exists_ok_map]

theorem inspectEntries_ok_iff (around : List (Nat × String)) (entries : List (Value × Value)) :
    (∃ parts, inspectEntries around entries = .ok parts) ↔
      ∀ n ∈ numbersOfEntries (around.map (·.1)) entries, Writable n := by
  cases entries with
  | nil => simp [inspectEntries, numbersOfEntries]
  | cons e rest =>
    cases e with
    | mk k v =>
      rw [numbersOfEntries, List.forall_mem_append, List.forall_mem_append,
        ← inspectIn_ok_iff around k, ← inspectIn_ok_iff around v,
        ← inspectEntries_ok_iff around rest]
      simp [inspectEntries, exists_ok_bind, exists_ok_map, and_assoc]

end

theorem inspect_ok_iff (v : Value) :
    (∃ text, v.inspect = .ok text) ↔ ∀ n ∈ v.numbers, Writable n :=
  inspectIn_ok_iff [] v

/-- A value has a text exactly where every number in it is within the digit limit. -/
theorem display_ok_iff (v : Value) :
    (∃ text, v.display = .ok text) ↔ ∀ n ∈ v.numbers, Writable n := by
  cases v with
  | text s => simp [display, numbers, numbersIn]
  | date d => simp [display, numbers, numbersIn]
  | moment t => simp [display, numbers, numbersIn]
  | state s => simpa [display, numbers, numbersIn, exists_ok_map] using stateParts_ok_iff
  | _ => exact inspect_ok_iff _

end Value

namespace Catalog

variable {catalog : Catalog} {selection : List Entry} {e : Entry} {i : Intake}

/-- Whether whatever a problem with an entry would have to quote has a text. -/
structure Legible (catalog : Catalog) (e : Entry) : Prop where
  value : ∀ c ∈ catalog.capabilities, e.name = .text c.name → ¬ c.Fits e.assigned →
    ∀ n ∈ e.assigned.numbers, Writable n
  name : (∀ c ∈ catalog.capabilities, e.name ≠ .text c.name) → ∀ n ∈ e.name.numbers, Writable n

/-- An entry can be judged exactly where it is legible. -/
theorem judge_ok_iff : (∃ judgement, catalog.judge e = .ok judgement) ↔ catalog.Legible e := by
  cases hn : catalog.named? e.name with
  | none =>
    have hname := named?_eq_none_iff.1 hn
    rw [judge_of_none hn]
    apply (exists_ok_map.trans e.name.display_ok_iff).trans
    constructor
    · intro h
      exact ⟨fun c hc he => absurd he (hname c hc), fun _ => h⟩
    · intro h
      exact h.name hname
  | some c =>
    obtain ⟨hc, hname⟩ := named?_eq_some_iff.1 hn
    by_cases hfit : c.Fits e.assigned
    · obtain ⟨state, htakes⟩ := hfit
      rw [judge_of_takes hn htakes]
      refine iff_of_true ⟨_, rfl⟩ ⟨?_, fun h => absurd hname (h c hc)⟩
      intro d hd hdname hdfit
      cases eq_of_text_eq hc hd hname hdname
      exact absurd ⟨state, htakes⟩ hdfit
    · rw [judge_of_unfit hn hfit]
      apply (exists_ok_map.trans e.assigned.inspect_ok_iff).trans
      constructor
      · intro h
        exact ⟨fun _ _ _ _ => h, fun hnone => absurd hname (hnone c hc)⟩
      · intro h
        exact h.value c hc hname hfit

/-- Entries are taken in exactly where each one that would be quoted has a text. -/
theorem takeIn_ok_iff :
    (∃ j, catalog.takeIn i selection = .ok j) ↔ ∀ e ∈ selection, catalog.Legible e := by
  induction selection generalizing i with
  | nil => simp [takeIn]
  | cons e rest ih =>
    rw [List.forall_mem_cons, ← judge_ok_iff, takeIn, exists_ok_bind]
    simp only [ih, exists_and_right]

/-- A selection has a normal form exactly where each of its entries is legible. -/
theorem normalize_ok_iff :
    (∃ p, catalog.normalize selection = .ok p) ↔ ∀ e ∈ selection, catalog.Legible e := by
  have hrest (i : Intake) :
      ∃ p, (pure (catalog.snapshotOf i, i.problems) :
        Except DigitLimit (Snapshot × List Violation)) = .ok p := ⟨_, rfl⟩
  rw [normalize, exists_ok_bind, ← @takeIn_ok_iff catalog selection {}]
  simp only [hrest, and_true]

end Catalog

namespace Tables

variable {tables : Tables} {selection : List Entry}

theorem validate_of_legible (h : ∀ e ∈ selection, tables.catalog.Legible e) :
    ∃ verdict, (tables.validate selection).result = .ok verdict := by
  obtain ⟨p, hp⟩ := Catalog.normalize_ok_iff.2 h
  rw [result_validate, result_normalize, hp]
  exact ⟨_, rfl⟩

theorem validate_of_not_legible (h : ¬ ∀ e ∈ selection, tables.catalog.Legible e) :
    (tables.validate selection).result = .error .digitLimit := by
  rw [result_validate, result_normalize]
  cases hn : tables.catalog.normalize selection with
  | error limit => rfl
  | ok p => exact absurd (Catalog.normalize_ok_iff.1 ⟨p, hn⟩) h

/-- A flag or hook that is given a number over the digit limit stops the run. -/
theorem validate_of_long_number {c : Capability} (hc : c ∈ tables.catalog.capabilities)
    (hk : c.kind ≠ .parameter) {n : Nat} (hn : Nat.pow 10 maxDigits ≤ n) :
    (tables.validate [⟨.text c.name, .int n⟩]).result = .error .digitLimit := by
  have hone : 1 < n := Nat.lt_of_lt_of_le (one_lt_ten_pow (by decide)) hn
  have hunfit : ¬ c.Fits (.int n) := Capability.not_fits_int hk (by omega) (by omega)
  apply validate_of_not_legible
  intro h
  have hwritable := (h _ List.mem_cons_self).value c hc rfl hunfit n
    (by simp [Value.numbers, Value.numbersIn])
  rw [Writable, Int.natAbs_natCast] at hwritable
  omega

/-- There is a verdict exactly where every entry is legible; else the run stops at the digit limit. -/
theorem exists_verdict_iff (tables : Tables) (selection : List Entry) :
    ((∃ verdict, (tables.validate selection).result = .ok verdict) ↔
      ∀ e ∈ selection, tables.catalog.Legible e) ∧
    ∀ failure, (tables.validate selection).result = .error failure → failure = .digitLimit := by
  by_cases h : ∀ e ∈ selection, tables.catalog.Legible e
  · obtain ⟨verdict, hv⟩ := validate_of_legible h
    refine ⟨iff_of_true ⟨verdict, hv⟩ h, ?_⟩
    intro failure hf
    rw [hv] at hf
    cases hf
  · have herror := validate_of_not_legible h
    refine ⟨iff_of_false ?_ h, ?_⟩
    · rintro ⟨verdict, hv⟩
      rw [herror] at hv
      cases hv
    · intro failure hf
      rw [herror] at hf
      cases hf
      rfl

end Tables

/-- The values that a document or a command line assigns, apart from the rarer kinds. -/
inductive Value.Plain : Value → Prop where
  | null : Plain .null
  | bool (b : Bool) : Plain (.bool b)
  | int (n : Int) : Plain (.int n)
  | float (x : Binary64) : Plain (.float x)
  | text (s : String) : Plain (.text s)
  | list (items : List Value) (h : ∀ v ∈ items, Plain v) : Plain (.list items)
  | dict (entries : List (Value × Value)) (hkeys : ∀ e ∈ entries, Plain e.1)
      (hitems : ∀ e ∈ entries, Plain e.2) : Plain (.dict entries)

/-- A plain selection of one flag that no verdict is given on: the number that it assigns has one digit too
many to be quoted. -/
theorem no_verdict_of_sample :
    let selection : List Entry := [⟨.text "AES", .int (Nat.pow 10 maxDigits)⟩]
    (Tables.build "sample" sampleCapabilities sampleRules).result = .ok sampleTables ∧
      (∀ e ∈ selection, (∃ name, e.name = .text name) ∧ e.assigned.Plain) ∧
      (sampleTables.validate selection).result = .error .digitLimit := by
  refine ⟨build_sample, ?_, ?_⟩
  · intro e he
    cases List.mem_singleton.1 he
    exact ⟨⟨"AES", rfl⟩, .int _⟩
  · exact Tables.validate_of_long_number (c := { name := "AES" }) List.mem_cons_self (by decide) Nat.le.refl

end FeatureCert
