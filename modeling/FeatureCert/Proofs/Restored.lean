import FeatureCert.Proofs.Restated
import FeatureCert.Proofs.Written

/-!
Definitions read back. What a certificate writes for the compiler is accepted word by word as definitions of
the command line, and the names that are off as their opposites. Both together are the plain values of the
certified snapshot, in another order, and so they are certified as the same configuration.
-/
namespace FeatureCert

open FeatureCert.Numeral FeatureCert.Selection

namespace Snapshot

/-- Names with a state that are off. -/
def disabledNames (s : Snapshot) : List String := (s.states.filter (!·.2.enabled)).map (·.1)

/-- A definition is a bare name, or a name with a number that has a decimal text. -/
theorem define_ok {lead name text : String} {state : State}
    (h : define lead name state = .ok text) :
    (state.value = none ∧ text = lead ++ name) ∨
      ∃ n, state.value = some n ∧ Writable n ∧ text = lead ++ name ++ "=" ++ toString n := by
  unfold define at h
  split at h
  · next hvalue =>
    cases h
    exact .inl ⟨hvalue, rfl⟩
  · next n hvalue =>
    by_cases hn : Writable n
    · rw [decimal_of_writable hn] at h
      cases h
      exact .inr ⟨n, hvalue, hn, rfl⟩
    · rw [decimal_of_not_writable hn] at h
      cases h

end Snapshot

/-- The definition of a state that is on is read as its plain value. -/
theorem Capability.parseDefine_define {c : Capability} {state : State} {text : String}
    (hname : Identifier.isValid c.name.toList = true) (hon : state.enabled = true)
    (hnumber : c.kind = .parameter → ∃ n, state.value = some n)
    (hnone : c.kind ≠ .parameter → state.value = none)
    (h : Snapshot.define "" c.name state = .ok text) :
    parseDefine text = .ok (c.name, c.plain state) := by
  by_cases hk : c.kind = .parameter
  · obtain ⟨m, hm⟩ := hnumber hk
    rcases Snapshot.define_ok h with ⟨hvalue, _⟩ | ⟨n, hvalue, hwritable, rfl⟩
    · rw [hm] at hvalue
      cases hvalue
    · rw [String.empty_append, parseDefine_number hname hwritable, plain_of_number hk hon hvalue]
  · rcases Snapshot.define_ok h with ⟨_, rfl⟩ | ⟨n, hvalue, _⟩
    · rw [String.empty_append, parseDefine_of_isValid hname, plain_of_not_parameter hk, hon]
    · rw [hnone hk] at hvalue
      cases hvalue

namespace Catalog

variable {catalog : Catalog} {state : Capability → State}

theorem disabledNames_tabulate (catalog : Catalog) (state : Capability → State) :
    (catalog.tabulate state).disabledNames =
      (catalog.capabilities.filter fun c => !(state c).enabled).map (·.name) := by
  simp [tabulate, Snapshot.disabledNames, List.filter_map, Function.comp_def]

/-- Each definition is parsed back: a name alone as on, and a name with a number as this number. -/
theorem parseDefine_defines {entries : List String}
    (hnames : ∀ c ∈ catalog.capabilities, Identifier.isValid c.name.toList = true)
    (hvalue : ∀ c ∈ catalog.capabilities, (c.kind = .parameter → ∃ n, (state c).value = some n) ∧
      (c.kind ≠ .parameter → (state c).value = none))
    (h : (catalog.tabulate state).defines "" = .ok entries) :
    entries.mapM parseDefine = .ok ((catalog.capabilities.filter fun c => (state c).enabled).map
      fun c => (c.name, c.plain (state c))) := by
  rw [defines_tabulate, mapM_eq_ok_iff] at h
  rw [mapM_eq_ok_iff, List.forall₂_map_right_iff]
  have hrendered := (List.forall₂_and_left _ _).2 ⟨fun c hc => List.mem_filter.1 hc, h⟩
  apply List.Forall₂.flip
  apply hrendered.imp
  rintro c text ⟨⟨hc, hon⟩, htext⟩
  exact Capability.parseDefine_define (hnames c hc) hon (hvalue c hc).1 (hvalue c hc).2 htext

/-- What is off can be turned off by name, as names are identifiers without blanks. -/
theorem parseUndefine_disabledNames
    (hnames : ∀ c ∈ catalog.capabilities, Identifier.isValid c.name.toList = true) :
    (catalog.tabulate state).disabledNames.mapM parseUndefine =
      .ok ((catalog.capabilities.filter fun c => !(state c).enabled).map
        fun c => (c.name, c.plain (state c))) := by
  rw [disabledNames_tabulate, mapM_eq_ok_iff, List.forall₂_map_left_iff, List.forall₂_map_right_iff,
    List.forall₂_same]
  intro c hc
  obtain ⟨hmem, hoff⟩ := List.mem_filter.1 hc
  rw [parseUndefine_of_isValid (hnames c hmem), Capability.plain_of_disabled (by simpa using hoff)]

/-- What is on and then what is off comes to a value for every capability. -/
theorem split_perm_assign (catalog : Catalog) (state : Capability → State)
    (assigned : Capability → Value) :
    ((((catalog.capabilities.filter fun c => (state c).enabled).map fun c => (c.name, assigned c)) ++
      (catalog.capabilities.filter fun c => !(state c).enabled).map fun c =>
        (c.name, assigned c)).map Entry.ofPair).Perm (catalog.assign assigned) := by
  rw [← List.map_append, List.map_map]
  exact (List.filter_append_perm _ _).map _

end Catalog

theorem RuleSet.certificate_verdict_eq_some {catalog : Catalog} {rules : RuleSet catalog}
    {s : Snapshot} {problems : List Violation} {certificate : Certificate}
    (h : (rules.verdict s problems).certificate = some certificate) :
    rules.violations s = [] ∧ certificate = ⟨catalog.id, s⟩ :=
  (certificate_verdict_eq_some_iff.1 h).2

/-- The definitions of a certificate and the opposites of the rest bring its configuration back. -/
theorem Tables.restored_of_defines {tables : Tables} {selection : List Entry} {verdict : Verdict}
    {certificate : Certificate} {entries : List String}
    (hnames : ∀ c ∈ tables.catalog.capabilities, Identifier.isValid c.name.toList = true)
    (h : (tables.validate selection).result = .ok verdict)
    (hcertificate : verdict.certificate = some certificate)
    (hdefines : certificate.snapshot.defines "" = .ok entries) :
    ∃ on off, entries.mapM parseDefine = .ok on ∧
      certificate.snapshot.disabledNames.mapM parseUndefine = .ok off ∧
      ∃ again restored, (tables.validate ((on ++ off).map Entry.ofPair)).result = .ok again ∧
        again.passed = true ∧ again.certificate = some restored ∧
        restored.snapshot.enabledNames = certificate.snapshot.enabledNames ∧
        ∀ lead, restored.snapshot.defines lead = certificate.snapshot.defines lead := by
  obtain ⟨s, problems, hnormal, rfl⟩ := validate_ok h
  have hn := catalog_normalize_of_result hnormal
  obtain ⟨hnone, rfl⟩ := RuleSet.certificate_verdict_eq_some hcertificate
  have hrules := (RuleSet.violations_eq_nil_iff (Catalog.numbered_normalize hn)).1 hnone
  obtain ⟨state, rfl, hvalue⟩ := Catalog.exists_tabulate_of_normalize hn
  have hrestored := result_normalize_of_catalog (Catalog.normalize_of_perm
    (Catalog.split_perm_assign tables.catalog state fun c => c.plain (state c))
    fun c hc => Capability.takes_plain (hvalue c hc).1 (hvalue c hc).2)
  obtain ⟨again, hagain, hpassed, hcertified⟩ :=
    certified_of_restates (Catalog.restates_tabulate tables.catalog state) hrestored hrules
  exact ⟨_, _, Catalog.parseDefine_defines hnames hvalue hdefines,
    Catalog.parseUndefine_disabledNames hnames, again, _, hagain, hpassed, hcertified,
    Catalog.enabledNames_restated tables.catalog state,
    Catalog.defines_restated tables.catalog state⟩

/-- The sample's certificate of two flags and a number goes out and comes back. -/
theorem restored_of_sample :
    let selection : List Entry := [⟨.text "AES", .bool true⟩, ⟨.text "ROUNDS", .int 6⟩]
    let certificate : Certificate := ⟨"sample", ⟨[("AES", ⟨true, none, true⟩),
      ("DES", ⟨false, none, false⟩), ("RNG", ⟨true, none, false⟩), ("ROUNDS", ⟨true, some 6, true⟩)]⟩⟩
    let verdict : Verdict := ⟨"sample", some certificate, [], 3, 3⟩
    let entries := ["AES", "RNG", "ROUNDS=6"]
    (∀ c ∈ sampleCatalog.capabilities, Identifier.isValid c.name.toList = true) ∧
      (sampleTables.validate selection).result = .ok verdict ∧
      certificate.snapshot.defines "" = .ok entries ∧
      ∃ on off, entries.mapM parseDefine = .ok on ∧
        certificate.snapshot.disabledNames.mapM parseUndefine = .ok off ∧
        ∃ again restored, (sampleTables.validate ((on ++ off).map Entry.ofPair)).result = .ok again ∧
          again.passed = true ∧ again.certificate = some restored ∧
          restored.snapshot.enabledNames = certificate.snapshot.enabledNames ∧
          ∀ lead, restored.snapshot.defines lead = certificate.snapshot.defines lead := by
  intro selection certificate verdict entries
  have hnames : ∀ c ∈ sampleCatalog.capabilities, Identifier.isValid c.name.toList = true := by
    decide
  have hverdict : (sampleTables.validate selection).result = .ok verdict := rfl
  have hdefines : certificate.snapshot.defines "" = .ok entries := by
    decide +kernel
  exact ⟨hnames, hverdict, hdefines, Tables.restored_of_defines hnames hverdict rfl hdefines⟩

end FeatureCert
