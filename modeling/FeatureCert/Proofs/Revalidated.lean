import FeatureCert.Proofs.Tabulated

/-!
Selections out of earlier snapshots. The states of a normal form, taken as a selection, come to the same
normal form once more, with what is on, the numbers and the marks of what was set; a certificate therefore
certifies its own snapshot.
-/
namespace FeatureCert

/-- A state with a number where the capability has one, and none where it has none, stands for itself. -/
theorem Capability.takes_state_self {c : Capability} {state : State}
    (hnumber : c.kind = .parameter → ∃ n, state.value = some n)
    (hnone : c.kind ≠ .parameter → state.value = none) : c.Takes (.state state) state := by
  by_cases hk : c.kind = .parameter
  · obtain ⟨n, hn⟩ := hnumber hk
    have h := Takes.valued hk state
    rwa [hn, Option.getD_some, ← hn] at h
  · have h := Takes.valueless hk state
    rwa [← hnone hk] at h

namespace Catalog

variable {catalog : Catalog} {selection : List Entry} {s : Snapshot} {problems : List Violation}

theorem entries_tabulate (catalog : Catalog) (state : Capability → State) :
    (catalog.tabulate state).entries = catalog.assign fun c => .state (state c) := by
  simp [tabulate, Snapshot.entries, assign]

/-- Normalizing a normal form changes nothing and finds nothing. -/
theorem normalize_entries (h : catalog.normalize selection = .ok (s, problems)) :
    catalog.normalize s.entries = .ok (s, []) := by
  obtain ⟨state, rfl, hvalue⟩ := exists_tabulate_of_normalize h
  apply normalize_of_perm (by rw [entries_tabulate])
  intro c hc
  exact Capability.takes_state_self (hvalue c hc).1 (hvalue c hc).2

end Catalog

namespace RuleSet

variable {catalog : Catalog} (rules : RuleSet catalog) (s : Snapshot) (problems : List Violation)

theorem violations_verdict_eq_append :
    (rules.verdict s problems).violations = problems ++ (rules.verdict s []).violations := by
  simp [verdict]

theorem verdict_of_passed (h : (rules.verdict s problems).passed = true) :
    problems = [] ∧ (rules.verdict s problems).certificate = some ⟨catalog.id, s⟩ := by
  refine ⟨(violations_verdict_eq_nil_iff.1 (List.isEmpty_iff.1 h)).1, ?_⟩
  rw [certificate_verdict, if_pos h]

end RuleSet

/-- Validation is idempotent: a normal form is its own normal form, its verdict differs from that on the
selection by the selection's problems alone, and a certificate's snapshot gets the same verdict again. -/
theorem Tables.revalidated_of_normalize {tables : Tables} {selection : List Entry} {s : Snapshot}
    {problems : List Violation} (h : (tables.normalize selection).result = .ok (s, problems)) :
    (tables.normalize s.entries).result = .ok (s, []) ∧
      ∃ first second, (tables.validate selection).result = .ok first ∧
        (tables.validate s.entries).result = .ok second ∧
        first.violations = problems ++ second.violations ∧
        second.enabledCount = first.enabledCount ∧
        (first.passed = true → ∃ certificate, first.certificate = some certificate ∧
          (tables.validate certificate.snapshot.entries).result = .ok first) := by
  have hagain : (tables.normalize s.entries).result = .ok (s, []) :=
    result_normalize_of_catalog (Catalog.normalize_entries (catalog_normalize_of_result h))
  refine ⟨hagain, _, _, result_validate_of_normalize h, result_validate_of_normalize hagain,
    tables.rules.violations_verdict_eq_append s problems, rfl, ?_⟩
  intro hpassed
  obtain ⟨rfl, hcertificate⟩ := tables.rules.verdict_of_passed s problems hpassed
  exact ⟨_, hcertificate, result_validate_of_normalize hagain⟩

/-- States that lack a number or have one too many are mended by the first run, and stay so. -/
theorem revalidated_of_states :
    let selection : List Entry := [⟨.text "AES", .state ⟨true, some 7, false⟩⟩,
      ⟨.text "ROUNDS", .state ⟨true, none, false⟩⟩, ⟨.text "DES", .bool false⟩]
    let s : Snapshot := ⟨[("AES", ⟨true, none, false⟩), ("DES", ⟨false, none, true⟩),
      ("RNG", ⟨true, none, false⟩), ("ROUNDS", ⟨true, some 4, false⟩)]⟩
    (sampleTables.normalize selection).result = .ok (s, []) ∧
      (sampleTables.normalize s.entries).result = .ok (s, []) ∧
      ∃ first second, (sampleTables.validate selection).result = .ok first ∧
        (sampleTables.validate s.entries).result = .ok second ∧
        first.violations = [] ++ second.violations ∧
        second.enabledCount = first.enabledCount ∧
        (first.passed = true → ∃ certificate, first.certificate = some certificate ∧
          (sampleTables.validate certificate.snapshot.entries).result = .ok first) :=
  ⟨rfl, @Tables.revalidated_of_normalize sampleTables _ _ _ rfl⟩

end FeatureCert
