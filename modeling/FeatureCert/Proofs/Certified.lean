import FeatureCert.Proofs.Breach

/-!
What a certificate stands for. A selection is certified exactly where each of its entries fits a capability
and its normal form satisfies every declared rule, those that were dropped as repetitions among them.
-/
namespace FeatureCert

namespace RuleSet

variable {catalog : Catalog} {rules : RuleSet catalog} {s : Snapshot} {declared : List Rule}
  {problems : List Violation}

/-- A dropped exclusion holds where the kept one of its pair does. -/
theorem holds_declared_iff (h : RuleSet.build catalog declared = .ok rules) :
    (∀ r ∈ rules.rules, r.Holds catalog s) ↔ ∀ r ∈ declared, r.Holds catalog s := by
  rw [(build_ok h).1]
  constructor
  · intro hkept r hr
    rcases mem_or_repeats_of_mem hr with hmem | ⟨q, hq, hrepeats⟩
    · exact hkept r hmem
    · exact Rule.holds_of_repeats hrepeats (hkept q hq)
  · intro hall r hr
    exact hall r (mem_of_mem_dropRepeats hr)

theorem violations_verdict_eq_nil_iff :
    (rules.verdict s problems).violations = [] ↔ problems = [] ∧ rules.violations s = [] :=
  List.append_eq_nil_iff

theorem certificate_verdict :
    (rules.verdict s problems).certificate =
      if (rules.verdict s problems).passed then some ⟨catalog.id, s⟩ else none := rfl

/-- A certificate is given where there is no problem and no broken rule, and holds the judged snapshot. -/
theorem certificate_verdict_eq_some_iff {certificate : Certificate} :
    (rules.verdict s problems).certificate = some certificate ↔
      problems = [] ∧ rules.violations s = [] ∧ certificate = ⟨catalog.id, s⟩ := by
  rw [certificate_verdict, ← and_assoc, ← violations_verdict_eq_nil_iff]
  by_cases h : (rules.verdict s problems).violations = []
  · have hpassed : (rules.verdict s problems).passed = true := List.isEmpty_iff.2 h
    rw [if_pos hpassed, Option.some.injEq]
    exact ⟨fun he => ⟨h, he.symm⟩, fun he => he.2.symm⟩
  · have hfailed : ¬ (rules.verdict s problems).passed = true := fun hp => h (List.isEmpty_iff.1 hp)
    rw [if_neg hfailed]
    exact iff_of_false (by simp) fun he => h he.1

/-- A snapshot that breaks no rule is certified where the selection had no problem. -/
theorem certified_of_violations_eq_nil (h : rules.violations s = []) :
    (rules.verdict s []).passed = true ∧ (rules.verdict s []).certificate = some ⟨catalog.id, s⟩ :=
  ⟨List.isEmpty_iff.2 (violations_verdict_eq_nil_iff.2 ⟨rfl, h⟩),
    certificate_verdict_eq_some_iff.2 ⟨rfl, h, rfl⟩⟩

end RuleSet

/-- Certificates are sound and complete, for whatever tables and selection there is a verdict. The entries
may be listed pairs, those of a dictionary, or those of an earlier snapshot. -/
theorem Tables.passed_iff_of_validate {id : String} {capabilities : List Capability}
    {declared : List Rule} {tables : Tables} {selection : List Entry} {verdict : Verdict}
    (hbuild : (build id capabilities declared).result = .ok tables)
    (h : (tables.validate selection).result = .ok verdict) :
    ∃ s problems, (tables.normalize selection).result = .ok (s, problems) ∧
      (verdict.passed = true ↔
        (∀ e ∈ selection, ∃ c ∈ capabilities, e.name = .text c.name ∧ c.Fits e.assigned) ∧
          ∀ r ∈ declared, r.Holds tables.catalog s) ∧
      (verdict.violations = [] ↔ verdict.passed = true) ∧
      verdict.certificate = if verdict.passed then some ⟨id, s⟩ else none := by
  obtain ⟨hcatalog, hrules⟩ := build_ok hbuild
  obtain ⟨hid, hcapabilities⟩ := Catalog.build_ok hcatalog
  obtain ⟨s, problems, hnormal, rfl⟩ := validate_ok h
  have hn := catalog_normalize_of_result hnormal
  have hpassed : (tables.rules.verdict s problems).violations = [] ↔
      (tables.rules.verdict s problems).passed = true := List.isEmpty_iff.symm
  refine ⟨s, problems, hnormal, ?_, hpassed, ?_⟩
  · rw [← hpassed, RuleSet.violations_verdict_eq_nil_iff,
      (Catalog.complaints_normalize hn).eq_nil_iff,
      RuleSet.violations_eq_nil_iff (Catalog.numbered_normalize hn),
      RuleSet.holds_declared_iff hrules, hcapabilities]
  · rw [RuleSet.certificate_verdict, hid]

/-- The sample's rules pass a selection of two flags and a number in range. -/
theorem passed_iff_of_sample :
    let selection : List Entry :=
      [⟨.text "AES", .bool true⟩, ⟨.text "DES", .int 0⟩, ⟨.text "ROUNDS", .int 6⟩]
    let certified : Verdict := ⟨"sample", some ⟨"sample", ⟨[("AES", ⟨true, none, true⟩),
      ("DES", ⟨false, none, true⟩), ("RNG", ⟨true, none, false⟩),
      ("ROUNDS", ⟨true, some 6, true⟩)]⟩⟩, [], 3, 3⟩
    (Tables.build "sample" sampleCapabilities sampleRules).result = .ok sampleTables ∧
      (sampleTables.validate selection).result = .ok certified ∧ certified.passed = true ∧
      ∃ s problems, (sampleTables.normalize selection).result = .ok (s, problems) ∧
        (certified.passed = true ↔
          (∀ e ∈ selection, ∃ c ∈ sampleCapabilities, e.name = .text c.name ∧ c.Fits e.assigned) ∧
            ∀ r ∈ sampleRules, r.Holds sampleCatalog s) ∧
        (certified.violations = [] ↔ certified.passed = true) ∧
        certified.certificate = if certified.passed then some ⟨"sample", s⟩ else none :=
  ⟨build_sample, rfl, rfl, Tables.passed_iff_of_validate build_sample rfl⟩

end FeatureCert
