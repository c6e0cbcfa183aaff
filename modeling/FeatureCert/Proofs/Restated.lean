import FeatureCert.Proofs.Revalidated

/-!
Dumps of a snapshot. Written as plain values, a snapshot keeps what is on and the numbers of what is on, and
loses the numbers of parameters that are off: these come back as their defaults. No rule is broken by that,
since a rule set is only built when every default lies in the ranges of its parameter.
-/
namespace FeatureCert

/-- The snapshot `t` tells the same as `s`, but has defaults for the parameters that are off. -/
structure Snapshot.Restates (catalog : Catalog) (s t : Snapshot) : Prop where
  enabled : ∀ name, t.isEnabled name = s.isEnabled name
  value : ∀ c ∈ catalog.capabilities, (c.kind = .parameter → s.isEnabled c.name = true) →
    t.valueOf? c.name = s.valueOf? c.name
  default : ∀ c ∈ catalog.capabilities, c.kind = .parameter → s.isEnabled c.name = false →
    t.valueOf? c.name = some c.default.toInt

/-- A demand on a snapshot is one on every restatement of it. -/
theorem Snapshot.Restates.holds {catalog : Catalog} {s t : Snapshot} {r : Rule}
    (h : Restates catalog s t) (hr : r.Sound catalog) (hs : r.Holds catalog s) :
    r.Holds catalog t := by
  cases hconstraint : r.constraint with
  | requires target => simpa [Rule.Holds, hconstraint, h.enabled] using hs
  | requiresAny targets => simpa [Rule.Holds, hconstraint, h.enabled] using hs
  | excludes target => simpa [Rule.Holds, hconstraint, h.enabled] using hs
  | range minimum maximum =>
    simp only [Rule.Holds, hconstraint] at hs ⊢
    obtain ⟨c, hc, hname, owner, howner, hin⟩ := hs
    obtain ⟨d, hd, hdname, hk, _, hbounds⟩ := hr.range minimum maximum hconstraint
    cases Catalog.eq_of_name_eq hc hd (hname.trans hdname.symm)
    refine ⟨c, hc, hname, owner, howner, ?_⟩
    intro hon
    rw [h.enabled] at hon
    rw [← hname] at hin ⊢
    by_cases hset : s.isEnabled c.name = true
    · rw [h.value c hc fun _ => hset]
      exact hin hon
    · exact ⟨_, h.default c hc hk (by simpa using hset), hbounds⟩

namespace Capability

variable {c : Capability} {state : State}

/-- The plain value that a state is dumped as. -/
def plain (c : Capability) (state : State) : Value :=
  match c.kind, state.enabled, state.value with
  | .parameter, true, some n => .int n
  | .parameter, true, none => .null
  | _, enabled, _ => .bool enabled

/-- What a state comes back as. -/
def restated (c : Capability) (state : State) : State where
  enabled := state.enabled
  value := if c.kind = .parameter ∧ state.enabled = false then some c.default.toInt else state.value
  explicit := true

theorem plain_of_disabled (h : state.enabled = false) : c.plain state = .bool false := by
  cases hk : c.kind <;> simp [plain, hk, h]

theorem plain_of_not_parameter (hk : c.kind ≠ .parameter) : c.plain state = .bool state.enabled := by
  cases hc : c.kind <;> simp_all [plain]

theorem plain_of_number (hk : c.kind = .parameter) (h : state.enabled = true) {n : Int}
    (hn : state.value = some n) : c.plain state = .int n := by
  simp [plain, hk, h, hn]

/-- The plain value of a state fits its capability and stands for the state that comes back. -/
theorem takes_plain (hnumber : c.kind = .parameter → ∃ n, state.value = some n)
    (hnone : c.kind ≠ .parameter → state.value = none) :
    c.Takes (c.plain state) (c.restated state) := by
  by_cases hk : c.kind = .parameter
  · cases hon : state.enabled with
    | true =>
      obtain ⟨n, hn⟩ := hnumber hk
      rw [plain_of_number hk hon hn]
      simpa [restated, hon, hn] using Takes.number hk n
    | false =>
      rw [plain_of_disabled hon]
      simpa [restated, hk, hon] using Takes.removed hk
  · rw [plain_of_not_parameter hk]
    simpa [restated, hk, hnone hk] using Takes.switch hk state.enabled

end Capability

namespace Catalog

variable {catalog : Catalog} {state : Capability → State}

/-- Dumping goes capability by capability. -/
theorem selectionOf_tabulate (catalog : Catalog) (state : Capability → State) :
    (catalog.selectionOf (catalog.tabulate state)).map Entry.ofPair =
      catalog.assign fun c => c.plain (state c) := by
  rw [selectionOf, assign, List.map_map]
  apply List.map_congr_left
  intro c hc
  rw [Function.comp_apply, isEnabled_tabulate_self hc, valueOf?_tabulate_self hc]
  unfold Capability.plain
  cases c.kind <;> cases (state c).enabled <;> cases (state c).value <;> rfl

/-- What comes back differs from what was dumped in the numbers of parameters that are off alone. -/
theorem restates_tabulate (catalog : Catalog) (state : Capability → State) :
    (catalog.tabulate state).Restates catalog
      (catalog.tabulate fun c => c.restated (state c)) where
  enabled := isEnabled_tabulate_congr fun _ _ => rfl
  value c hc hset := by
    rw [isEnabled_tabulate_self hc] at hset
    rw [valueOf?_tabulate_self hc, valueOf?_tabulate_self hc]
    apply if_neg
    rintro ⟨hk, hoff⟩
    rw [hset hk] at hoff
    cases hoff
  default c hc hk hoff := by
    rw [isEnabled_tabulate_self hc] at hoff
    rw [valueOf?_tabulate_self hc]
    exact if_pos ⟨hk, hoff⟩

theorem enabledNames_restated (catalog : Catalog) (state : Capability → State) :
    (catalog.tabulate fun c => c.restated (state c)).enabledNames =
      (catalog.tabulate state).enabledNames := by
  rw [enabledNames_tabulate, enabledNames_tabulate]
  rfl

/-- Definitions are of what is on, and there nothing is lost. -/
theorem defines_restated (catalog : Catalog) (state : Capability → State) (lead : String) :
    (catalog.tabulate fun c => c.restated (state c)).defines lead =
      (catalog.tabulate state).defines lead := by
  rw [defines_tabulate, defines_tabulate]
  apply mapM_congr_of_mem
  intro c hc
  have hon : (state c).enabled = true := (List.mem_filter.1 hc).2
  simp [Snapshot.define, Capability.restated, hon]

end Catalog

/-- A restatement of a snapshot that breaks no rule is certified. -/
theorem Tables.certified_of_restates {tables : Tables} {s t : Snapshot} {selection : List Entry}
    (hrestates : s.Restates tables.catalog t)
    (h : (tables.normalize selection).result = .ok (t, []))
    (hrules : ∀ r ∈ tables.rules.rules, r.Holds tables.catalog s) :
    ∃ verdict, (tables.validate selection).result = .ok verdict ∧ verdict.passed = true ∧
      verdict.certificate = some ⟨tables.catalog.id, t⟩ := by
  have hnone : tables.rules.violations t = [] := by
    rw [RuleSet.violations_eq_nil_iff
      (Catalog.numbered_normalize (catalog_normalize_of_result h))]
    intro r hr
    exact hrestates.holds (RuleSet.sound_of_mem hr) (hrules r hr)
  exact ⟨_, result_validate_of_normalize h, RuleSet.certified_of_violations_eq_nil hnone⟩

/-- A dump is accepted back: it has no problem, restates the snapshot with the same names on and the same
definitions, and is certified where the snapshot breaks no rule. -/
theorem Tables.restates_of_dump {tables : Tables} {selection : List Entry} {s : Snapshot}
    {problems : List Violation} (h : (tables.normalize selection).result = .ok (s, problems)) :
    let dump := (tables.catalog.selectionOf s).map Entry.ofPair
    ∃ t, (tables.normalize dump).result = .ok (t, []) ∧ s.Restates tables.catalog t ∧
      t.enabledNames = s.enabledNames ∧ (∀ lead, t.defines lead = s.defines lead) ∧
      ((∀ r ∈ tables.rules.rules, r.Holds tables.catalog s) →
        ∃ verdict, (tables.validate dump).result = .ok verdict ∧ verdict.passed = true ∧
          verdict.certificate = some ⟨tables.catalog.id, t⟩) := by
  obtain ⟨state, rfl, hvalue⟩ := Catalog.exists_tabulate_of_normalize (catalog_normalize_of_result h)
  have hrestates := Catalog.restates_tabulate tables.catalog state
  have hdump := result_normalize_of_catalog (Catalog.normalize_of_perm
    (.of_eq (Catalog.selectionOf_tabulate tables.catalog state))
    fun c hc => Capability.takes_plain (hvalue c hc).1 (hvalue c hc).2)
  exact ⟨_, hdump, hrestates, Catalog.enabledNames_restated tables.catalog state,
    Catalog.defines_restated tables.catalog state, certified_of_restates hrestates hdump⟩

/-- The number of a parameter that is off is what a dump loses. -/
theorem restates_of_disabled_number :
    let selection : List Entry := [⟨.text "AES", .bool true⟩,
      ⟨.text "ROUNDS", .state ⟨false, some 6, true⟩⟩]
    let s : Snapshot := ⟨[("AES", ⟨true, none, true⟩), ("DES", ⟨false, none, false⟩),
      ("RNG", ⟨true, none, false⟩), ("ROUNDS", ⟨false, some 6, true⟩)]⟩
    let dump := (sampleCatalog.selectionOf s).map Entry.ofPair
    (sampleTables.normalize selection).result = .ok (s, []) ∧
      ∃ t, (sampleTables.normalize dump).result = .ok (t, []) ∧ s.Restates sampleCatalog t ∧
        t.enabledNames = s.enabledNames ∧ (∀ lead, t.defines lead = s.defines lead) ∧
        ((∀ r ∈ sampleTables.rules.rules, r.Holds sampleCatalog s) →
          ∃ verdict, (sampleTables.validate dump).result = .ok verdict ∧ verdict.passed = true ∧
            verdict.certificate = some ⟨sampleCatalog.id, t⟩) := by
  intro selection s dump
  have h : (sampleTables.normalize selection).result = .ok (s, []) := rfl
  exact ⟨h, Tables.restates_of_dump h⟩

end FeatureCert
