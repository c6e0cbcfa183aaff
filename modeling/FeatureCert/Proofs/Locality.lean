import FeatureCert.Proofs.Breach

/-!
What a change of one capability can bear on. A rule reads the states of the names that it mentions, and a
range reads the state of its parameter's owner as well. Where two snapshots tell the same of every other
capability, the remaining rules come to the same outcome on both.
-/
namespace FeatureCert

/-- Two snapshots tell the same of every capability but one; the marks of what was set may differ. -/
structure Snapshot.AgreeApart (catalog : Catalog) (name : String) (s t : Snapshot) : Prop where
  enabled : ∀ other ∈ catalog.identifiers, other ≠ name → t.isEnabled other = s.isEnabled other
  value : ∀ other ∈ catalog.identifiers, other ≠ name → t.valueOf? other = s.valueOf? other

namespace RuleSet

variable {catalog : Catalog} {rules : RuleSet catalog} {s t : Snapshot} {name : String} {r : Rule}

/-- The rules that a capability bears on: those that mention it, and the ranges of what it owns. -/
def Affects (rules : RuleSet catalog) (name : String) (r : Rule) : Prop :=
  r ∈ rules.mentioning name ∨ (r.kind = .range ∧ r.subject ∈ catalog.ownedBy name)

instance (rules : RuleSet catalog) (name : String) (r : Rule) : Decidable (rules.Affects name r) :=
  inferInstanceAs (Decidable (_ ∨ _))

/-- A rule that a capability does not bear on reads nothing of its state. -/
theorem check_eq_of_agree (h : s.AgreeApart catalog name t) (hr : r ∈ rules.rules)
    (hnot : ¬ rules.Affects name r) : catalog.check s r = catalog.check t r := by
  have hsound := sound_of_mem hr
  have hne : ∀ other ∈ r.identifiers, other ≠ name := by
    rintro other hother rfl
    exact hnot (.inl (mem_mentioning.2 ⟨hr, hother⟩))
  have hon : ∀ other ∈ r.identifiers, t.isEnabled other = s.isEnabled other :=
    fun other hother => h.enabled other (hsound.known other hother) (hne other hother)
  have hsubject := hon r.subject List.mem_cons_self
  have hobject : ∀ other ∈ r.constraint.objects, t.isEnabled other = s.isEnabled other :=
    fun other hother => hon other (List.mem_cons_of_mem _ hother)
  cases hconstraint : r.constraint with
  | requires target =>
    rw [hconstraint] at hobject
    have htarget := hobject target List.mem_cons_self
    simp only [Catalog.check, hconstraint, hsubject, htarget]
  | requiresAny targets =>
    rw [hconstraint] at hobject
    have htargets : targets.any t.isEnabled = targets.any s.isEnabled := by
      rw [Bool.eq_iff_iff, List.any_eq_true, List.any_eq_true]
      apply exists_congr
      intro target
      apply and_congr_right
      intro hmem
      rw [hobject target hmem]
    simp only [Catalog.check, hconstraint, hsubject, htargets]
  | excludes target =>
    rw [hconstraint] at hobject
    have htarget := hobject target List.mem_cons_self
    simp only [Catalog.check, hconstraint, hsubject, htarget]
  | range minimum maximum =>
    -- A range does not mention the owner, so `hon` is silent on it; only `ownedBy` leads to it.
    obtain ⟨c, hc, hname, _, owner, hmem, howner, _⟩ := hsound.exists_owned hconstraint
    have hlook : catalog.lookup? r.subject = some c := Catalog.lookup?_eq_some_iff.2 ⟨hc, hname⟩
    have hothers : owner.name ≠ name := by
      intro he
      refine hnot (.inr ⟨by rw [Rule.kind, hconstraint]; rfl, Catalog.mem_ownedBy.2 ⟨c, hc, ?_, hname⟩⟩)
      rw [howner, he]
    have howneron : t.isEnabled owner.name = s.isEnabled owner.name :=
      h.enabled owner.name (List.mem_map_of_mem hmem) hothers
    have hvalue : t.valueOf? r.subject = s.valueOf? r.subject :=
      h.value r.subject (hsound.known _ List.mem_cons_self) (hne _ List.mem_cons_self)
    simp only [Catalog.check, hconstraint, Catalog.checkRange, hlook, howner, howneron, hvalue,
      Option.bind_eq_bind, Option.bind_some]

/-- What is reported more often on one of the two is the report of an affected rule that differs. -/
theorem exists_affects_of_count_ne (h : s.AgreeApart catalog name t) {v : Violation}
    (hv : (rules.violations s).count v ≠ (rules.violations t).count v) :
    ∃ r ∈ rules.rules, rules.Affects name r ∧ catalog.check s r ≠ catalog.check t r ∧
      (catalog.check s r = some v ∨ catalog.check t r = some v) := by
  by_contra hnone
  apply hv
  rw [violations_eq_filterMap, violations_eq_filterMap, List.count_filterMap, List.count_filterMap]
  apply List.countP_congr
  intro r hr
  have hmem := mem_evaluated_iff.1 hr
  by_cases hsame : catalog.check s r = catalog.check t r
  · rw [hsame]
  · have haffects : rules.Affects name r :=
      Decidable.of_not_not fun hnot => hsame (check_eq_of_agree h hmem hnot)
    have hneither : ¬ (catalog.check s r = some v ∨ catalog.check t r = some v) :=
      fun hsome => hnone ⟨r, hmem, haffects, hsame, hsome⟩
    rw [not_or] at hneither
    simp [hneither.1, hneither.2]

end RuleSet

/-- Verdicts on two normal forms that differ in one capability differ only by the reports of rules that it
bears on. -/
theorem Tables.outcomes_of_agree {tables : Tables} {name : String}
    {selection selection' : List Entry} {s t : Snapshot} {problems problems' : List Violation}
    (hs : (tables.normalize selection).result = .ok (s, problems))
    (ht : (tables.normalize selection').result = .ok (t, problems'))
    (h : s.AgreeApart tables.catalog name t) :
    (∀ r ∈ tables.rules.rules, r ∉ tables.rules.mentioning name →
      ¬ (r.kind = .range ∧ r.subject ∈ tables.catalog.ownedBy name) →
      tables.catalog.check s r = tables.catalog.check t r) ∧
    ∃ first second, (tables.validate selection).result = .ok first ∧
      (tables.validate selection').result = .ok second ∧
      first.violations = problems ++ tables.rules.violations s ∧
      second.violations = problems' ++ tables.rules.violations t ∧
      ∀ v, (tables.rules.violations s).count v ≠ (tables.rules.violations t).count v →
        ∃ r ∈ tables.rules.rules, tables.rules.Affects name r ∧
          tables.catalog.check s r ≠ tables.catalog.check t r ∧
          (tables.catalog.check s r = some v ∨ tables.catalog.check t r = some v) := by
  refine ⟨?_, _, _, result_validate_of_normalize hs, result_validate_of_normalize ht, rfl, rfl, ?_⟩
  · intro r hr hmention howned
    exact RuleSet.check_eq_of_agree h hr (not_or.2 ⟨hmention, howned⟩)
  · intro v hv
    exact RuleSet.exists_affects_of_count_ne h hv

/-- Turning an owner off silences the range of its parameter, which does not mention it. -/
theorem outcomes_of_owner :
    let selection : List Entry := [⟨.text "AES", .bool true⟩, ⟨.text "ROUNDS", .int 20⟩]
    let selection' : List Entry := [⟨.text "ROUNDS", .int 20⟩]
    let s : Snapshot := ⟨[("AES", ⟨true, none, true⟩), ("DES", ⟨false, none, false⟩),
      ("RNG", ⟨true, none, false⟩), ("ROUNDS", ⟨true, some 20, true⟩)]⟩
    let t : Snapshot := ⟨[("AES", ⟨false, none, false⟩), ("DES", ⟨false, none, false⟩),
      ("RNG", ⟨true, none, false⟩), ("ROUNDS", ⟨true, some 20, true⟩)]⟩
    let rules := sampleTables.rules
    (sampleTables.normalize selection).result = .ok (s, []) ∧
      (sampleTables.normalize selection').result = .ok (t, []) ∧
      s.AgreeApart sampleCatalog "AES" t ∧
      (∀ r ∈ rules.rules, r ∉ rules.mentioning "AES" →
        ¬ (r.kind = .range ∧ r.subject ∈ sampleCatalog.ownedBy "AES") →
        sampleCatalog.check s r = sampleCatalog.check t r) ∧
      ∃ first second, (sampleTables.validate selection).result = .ok first ∧
        (sampleTables.validate selection').result = .ok second ∧
        first.violations = [] ++ rules.violations s ∧
        second.violations = [] ++ rules.violations t ∧
        ∀ v, (rules.violations s).count v ≠ (rules.violations t).count v →
          ∃ r ∈ rules.rules, rules.Affects "AES" r ∧
            sampleCatalog.check s r ≠ sampleCatalog.check t r ∧
            (sampleCatalog.check s r = some v ∨ sampleCatalog.check t r = some v) := by
  intro selection selection' s t rules
  have hs : (sampleTables.normalize selection).result = .ok (s, []) := rfl
  have ht : (sampleTables.normalize selection').result = .ok (t, []) := rfl
  have h : s.AgreeApart sampleCatalog "AES" t := ⟨by decide, by decide⟩
  exact ⟨hs, ht, h, Tables.outcomes_of_agree hs ht h⟩

end FeatureCert
