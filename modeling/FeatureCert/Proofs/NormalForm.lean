import FeatureCert.Proofs.Intake
import FeatureCert.Proofs.Tables

/-!
Normal forms. A snapshot in normal form holds one state for each capability, in catalog order: the one that
the last entry under its name stands for, and the default where that entry does not fit or there is none.
-/
namespace FeatureCert

/-- What makes a snapshot and a list of problems the normal form of a selection. -/
structure NormalForm (catalog : Catalog) (selection : List Entry) (s : Snapshot)
    (problems : List Violation) : Prop where
  names : s.names = catalog.identifiers
  /-- The last entry under a name decides, if it fits. -/
  decided : ∀ c ∈ catalog.capabilities, ∀ e, IsLast selection c.name e →
    ∀ state, c.Takes e.assigned state → s.get? c.name = some state
  /-- Without a last entry, or with one that does not fit, the default holds. -/
  defaulted : ∀ c ∈ catalog.capabilities, (∀ e, IsLast selection c.name e → ¬ c.Fits e.assigned) →
    s.get? c.name = some c.defaultState
  /-- Parameters have numbers, flags and hooks have none. -/
  values : ∀ c ∈ catalog.capabilities, ∃ state, s.get? c.name = some state ∧
    (c.kind = .parameter → ∃ n, state.value = some n) ∧
    (c.kind ≠ .parameter → state.value = none)
  /-- In a selection of plain values, what is marked as set is what the last entry fits. -/
  explicit : (∀ e ∈ selection, ∀ state, e.assigned ≠ .state state) →
    ∀ c ∈ catalog.capabilities, ∀ state, s.get? c.name = some state →
      (state.explicit = true ↔ ∃ e, IsLast selection c.name e ∧ c.Fits e.assigned)
  problems : Complaints catalog selection problems

namespace Catalog

variable {catalog : Catalog} {selection : List Entry} {c : Capability} {i : Intake}
  {s : Snapshot} {problems : List Violation}

@[simp] theorem names_snapshotOf (catalog : Catalog) (i : Intake) :
    (catalog.snapshotOf i).names = catalog.identifiers := by
  simp [snapshotOf, Snapshot.names, identifiers]

theorem get?_snapshotOf (hc : c ∈ catalog.capabilities) :
    (catalog.snapshotOf i).get? c.name = some ((i.state? c.name).getD c.defaultState) := by
  rw [Snapshot.get?_eq_some_iff (by rw [names_snapshotOf]; exact catalog.distinct)]
  exact List.mem_map.2 ⟨c, hc, rfl⟩

/-- A normal form comes of an intake of all entries. -/
theorem normalize_ok (h : catalog.normalize selection = .ok (s, problems)) :
    ∃ i, catalog.takeIn {} selection = .ok i ∧ s = catalog.snapshotOf i ∧
      problems = i.problems := by
  obtain ⟨i, hi, h⟩ := bind_eq_ok_iff.1 h
  cases h
  exact ⟨i, hi, rfl, rfl⟩

theorem names_normalize (h : catalog.normalize selection = .ok (s, problems)) :
    s.names = catalog.identifiers := by
  obtain ⟨i, _, rfl, _⟩ := normalize_ok h
  exact names_snapshotOf catalog i

theorem complaints_normalize (h : catalog.normalize selection = .ok (s, problems)) :
    Complaints catalog selection problems := by
  obtain ⟨i, hi, _, rfl⟩ := normalize_ok h
  obtain ⟨vs, hvs, hcomplaints⟩ := problems_takeIn hi
  rw [hvs]
  exact hcomplaints

/-- A name that no entry carries, or whose last entry does not fit, has its default state. -/
theorem get?_normalize_of_unfit (h : catalog.normalize selection = .ok (s, problems))
    (hc : c ∈ catalog.capabilities)
    (hunfit : ∀ e, IsLast selection c.name e → ¬ c.Fits e.assigned) :
    s.get? c.name = some c.defaultState := by
  obtain ⟨i, hi, rfl, _⟩ := normalize_ok h
  rw [get?_snapshotOf hc]
  have hnone : i.state? c.name = none := by
    by_cases hname : ∃ e ∈ selection, e.name = .text c.name
    · obtain ⟨e, hlast⟩ := exists_isLast hname
      rw [state?_takeIn_of_isLast hi hc hlast, Capability.accept_eq_none_iff]
      exact hunfit e hlast
    · have hne : ∀ e ∈ selection, e.name ≠ .text c.name := fun e he hn => hname ⟨e, he, hn⟩
      rw [state?_takeIn_of_forall_ne hi hne]
      rfl
  rw [hnone]
  rfl

/-- The last entry of a name settles it, whatever the earlier ones did. -/
theorem get?_normalize_of_takes (h : catalog.normalize selection = .ok (s, problems))
    (hc : c ∈ catalog.capabilities) {e : Entry} (hlast : IsLast selection c.name e)
    {state : State} (htakes : c.Takes e.assigned state) : s.get? c.name = some state := by
  obtain ⟨i, hi, rfl, _⟩ := normalize_ok h
  rw [get?_snapshotOf hc, state?_takeIn_of_isLast hi hc hlast,
    Capability.accept_eq_some_iff.2 htakes]
  rfl

/-- Every state of a normal form is a default, or one that a last entry stands for. -/
theorem get?_normalize_cases (h : catalog.normalize selection = .ok (s, problems))
    (hc : c ∈ catalog.capabilities) :
    (s.get? c.name = some c.defaultState ∧
        ∀ e, IsLast selection c.name e → ¬ c.Fits e.assigned) ∨
      ∃ e state, s.get? c.name = some state ∧ IsLast selection c.name e ∧
        c.Takes e.assigned state := by
  by_cases hfit : ∃ e, IsLast selection c.name e ∧ c.Fits e.assigned
  · obtain ⟨e, hlast, state, htakes⟩ := hfit
    exact .inr ⟨e, state, get?_normalize_of_takes h hc hlast htakes, hlast, htakes⟩
  · have hunfit : ∀ e, IsLast selection c.name e → ¬ c.Fits e.assigned :=
      fun e hlast hf => hfit ⟨e, hlast, hf⟩
    exact .inl ⟨get?_normalize_of_unfit h hc hunfit, hunfit⟩

/-- Parameters have a number in every normal form, and other capabilities have none. -/
theorem value_normalize (h : catalog.normalize selection = .ok (s, problems))
    (hc : c ∈ catalog.capabilities) :
    ∃ state, s.get? c.name = some state ∧
      (c.kind = .parameter → ∃ n, state.value = some n) ∧
      (c.kind ≠ .parameter → state.value = none) := by
  rcases get?_normalize_cases h hc with ⟨hget, _⟩ | ⟨e, state, hget, _, htakes⟩
  · exact ⟨c.defaultState, hget, c.defaultState_value⟩
  · exact ⟨state, hget, htakes.value⟩

/-- A state is marked as set exactly where an entry that fits names it. -/
theorem explicit_normalize (h : catalog.normalize selection = .ok (s, problems))
    (hplain : ∀ e ∈ selection, ∀ state, e.assigned ≠ .state state)
    (hc : c ∈ catalog.capabilities) {state : State} (hget : s.get? c.name = some state) :
    state.explicit = true ↔ ∃ e, IsLast selection c.name e ∧ c.Fits e.assigned := by
  rcases get?_normalize_cases h hc with ⟨hdefault, hunfit⟩ | ⟨e, state', hget', hlast, htakes⟩
  · rw [hdefault, Option.some.injEq] at hget
    subst hget
    rw [c.defaultState_explicit]
    constructor
    · intro hfalse
      cases hfalse
    · rintro ⟨e, hlast, hfit⟩
      exact absurd hfit (hunfit e hlast)
  · rw [hget', Option.some.injEq] at hget
    subst hget
    exact iff_of_true (htakes.explicit (hplain e hlast.mem)) ⟨e, hlast, state', htakes⟩

end Catalog

/-- Normalizing gives the normal form, whatever the selection repeats, leaves out or gets wrong. -/
theorem Tables.normalForm_of_normalize {tables : Tables} {selection : List Entry} {s : Snapshot}
    {problems : List Violation} (h : (tables.normalize selection).result = .ok (s, problems)) :
    NormalForm tables.catalog selection s problems := by
  have hn := catalog_normalize_of_result h
  exact {
    names := Catalog.names_normalize hn
    decided := fun c hc e hlast state htakes =>
      Catalog.get?_normalize_of_takes hn hc hlast htakes
    defaulted := fun c hc hunfit => Catalog.get?_normalize_of_unfit hn hc hunfit
    values := fun c hc => Catalog.value_normalize hn hc
    explicit := fun hplain c hc state hget => Catalog.explicit_normalize hn hplain hc hget
    problems := Catalog.complaints_normalize hn }

/-- Here a later entry under a name does not fit, and so an earlier one that did is forgotten. -/
theorem normalForm_of_repeated :
    let selection : List Entry := [⟨.text "ROUNDS", .int 6⟩, ⟨.text "AES", .int 1⟩,
      ⟨.text "ROUNDS", .bool true⟩, ⟨.text "TLS", .null⟩]
    let s : Snapshot := ⟨[("AES", ⟨true, none, true⟩), ("DES", ⟨false, none, false⟩),
      ("RNG", ⟨true, none, false⟩), ("ROUNDS", ⟨false, some 4, false⟩)]⟩
    let problems : List Violation :=
      [⟨"ROUNDS", .invalidValue "True" "int"⟩, ⟨"TLS", .unknownCapability⟩]
    (sampleTables.normalize selection).result = .ok (s, problems) ∧
      NormalForm sampleCatalog selection s problems :=
  ⟨rfl, @Tables.normalForm_of_normalize sampleTables _ _ _ rfl⟩

end FeatureCert
