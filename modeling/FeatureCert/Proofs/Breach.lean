import FeatureCert.Proofs.Filing
import FeatureCert.Proofs.NormalForm

/-!
What a rule demands of a snapshot, and what is reported where the demand is broken. Checking a sound rule
finds a violation exactly where the demand is broken, and the violation tells the rule and the value. The
walk over the names of a catalog checks all rules and no others.
-/
namespace FeatureCert

/-- A snapshot in which every parameter has a number. -/
def Snapshot.Numbered (catalog : Catalog) (s : Snapshot) : Prop :=
  ∀ c ∈ catalog.capabilities, c.kind = .parameter → ∃ n, s.valueOf? c.name = some n

/-- A normal form has a number for every parameter, so that no range asks for a value in vain. -/
theorem Catalog.numbered_normalize {catalog : Catalog} {selection : List Entry} {s : Snapshot}
    {problems : List Violation} (h : catalog.normalize selection = .ok (s, problems)) :
    s.Numbered catalog := by
  intro c hc hk
  obtain ⟨state, hget, hvalue, _⟩ := value_normalize h hc
  obtain ⟨n, hn⟩ := hvalue hk
  exact ⟨n, by rw [Snapshot.valueOf?, hget, Option.bind_some, hn]⟩

namespace Rule

/-- The demand of a rule. -/
def Holds (catalog : Catalog) (s : Snapshot) (r : Rule) : Prop :=
  match r.constraint with
  | .requires target => s.isEnabled r.subject → s.isEnabled target
  | .requiresAny targets => s.isEnabled r.subject → ∃ target ∈ targets, s.isEnabled target
  | .excludes target => ¬ (s.isEnabled r.subject ∧ s.isEnabled target)
  | .range minimum maximum =>
    ∃ c ∈ catalog.capabilities, c.name = r.subject ∧ ∃ owner, c.owner = some owner ∧
      (s.isEnabled owner → ∃ n, s.valueOf? r.subject = some n ∧ minimum ≤ n ∧ n ≤ maximum)

/-- The violation that a broken rule is reported by. -/
inductive Reports (s : Snapshot) (r : Rule) : Violation → Prop where
  | requires (hr : r.constraint = .requires target) :
    Reports s r ⟨r.subject, .missingDependency target r.note⟩
  | requiresAny (hr : r.constraint = .requiresAny targets) :
    Reports s r ⟨r.subject, .unsatisfiedAny targets r.note⟩
  | excludes (hr : r.constraint = .excludes target) :
    Reports s r ⟨r.subject, .conflictingExclusion target r.note⟩
  | range (hr : r.constraint = .range minimum maximum) (hvalue : s.valueOf? r.subject = some n) :
    Reports s r ⟨r.subject, .outOfRangeParameter n minimum maximum r.note⟩

variable {catalog : Catalog} {s : Snapshot} {r q : Rule}

/-- A snapshot leaves a rule one violation to be reported by. -/
theorem Reports.unique {v w : Violation} (hv : r.Reports s v) (hw : r.Reports s w) : v = w := by
  cases hv <;> cases hw <;> simp_all

/-- Exclusions of the same pair demand the same. -/
theorem holds_of_repeats (h : r.repeatsExclusion q = true) (hq : q.Holds catalog s) :
    r.Holds catalog s := by
  obtain ⟨subject, note, constraint⟩ := r
  obtain ⟨subject', note', constraint'⟩ := q
  cases constraint <;> cases constraint' <;>
    simp only [repeatsExclusion, exclusion?, Bool.false_eq_true] at h
  rcases samePair_iff.1 h with he | ⟨h₁, h₂⟩
  · cases he
    exact hq
  · cases h₁
    cases h₂
    exact fun hboth => hq hboth.symm

end Rule

namespace Catalog

variable {catalog : Catalog} {s : Snapshot} {r : Rule} {c owner : Capability}

/-- The range check of a parameter whose owner and number are known. -/
theorem checkRange_eq (hc : c ∈ catalog.capabilities) (hname : c.name = r.subject)
    (howner : c.owner = some owner.name) {n : Int} (hn : s.valueOf? r.subject = some n)
    (minimum maximum : Int) :
    catalog.checkRange s r minimum maximum =
      if s.isEnabled owner.name ∧ ¬ (minimum ≤ n ∧ n ≤ maximum) then
        some ⟨r.subject, .outOfRangeParameter n minimum maximum r.note⟩
      else none := by
  have hlook : catalog.lookup? r.subject = some c := lookup?_eq_some_iff.2 ⟨hc, hname⟩
  simp only [checkRange, hlook, howner, hn, Option.bind_eq_bind, Option.bind_some, Option.getD_some]
  by_cases hon : s.isEnabled owner.name = true
  · by_cases hin : minimum ≤ n ∧ n ≤ maximum
    · simp [hon, hin]
    · simp only [hon, hin, if_true, if_false, not_false_eq_true, and_true]
  · simp [hon]

/-- The demand of a range in the same terms. -/
theorem holds_range_iff (hc : c ∈ catalog.capabilities) (hname : c.name = r.subject)
    (howner : c.owner = some owner.name) {n : Int} (hn : s.valueOf? r.subject = some n)
    {minimum maximum : Int} (hr : r.constraint = .range minimum maximum) :
    r.Holds catalog s ↔ (s.isEnabled owner.name → minimum ≤ n ∧ n ≤ maximum) := by
  simp only [Rule.Holds, hr]
  constructor
  · rintro ⟨d, hd, hdname, name, hdowner, hin⟩ hon
    cases eq_of_name_eq hc hd (hname.trans hdname.symm)
    rw [howner, Option.some.injEq] at hdowner
    subst hdowner
    obtain ⟨m, hm, hbounds⟩ := hin hon
    rw [hn, Option.some.injEq] at hm
    subst hm
    exact hbounds
  · intro h
    exact ⟨c, hc, hname, owner.name, howner, fun hon => ⟨n, hn, h hon⟩⟩

/-- Checking a sound rule passes it where it holds, and reports it where it does not. -/
theorem check_cases (hr : r.Sound catalog) (hs : s.Numbered catalog) :
    (r.Holds catalog s ∧ catalog.check s r = none) ∨
      (¬ r.Holds catalog s ∧ ∃ v, catalog.check s r = some v ∧ r.Reports s v) := by
  obtain ⟨subject, note, constraint⟩ := r
  cases constraint with
  | requires target =>
    by_cases h : s.isEnabled subject = true → s.isEnabled target = true
    · exact .inl ⟨h, by simpa [check] using h⟩
    · exact .inr ⟨h, _, by simpa [check] using h, .requires rfl⟩
  | requiresAny targets =>
    by_cases h : s.isEnabled subject = true → ∃ target ∈ targets, s.isEnabled target = true
    · exact .inl ⟨h, by simpa [check] using h⟩
    · exact .inr ⟨h, _, by simpa [check] using h, .requiresAny rfl⟩
  | excludes target =>
    by_cases h : s.isEnabled subject = true ∧ s.isEnabled target = true
    · exact .inr ⟨fun hn => hn h, _, by simpa [check] using h, .excludes rfl⟩
    · exact .inl ⟨h, by simpa [check] using h⟩
  | range minimum maximum =>
    obtain ⟨c, hc, hname, hk, owner, _, howner, _⟩ := hr.exists_owned rfl
    obtain ⟨n, hn⟩ := hs c hc hk
    rw [hname] at hn
    have hcheck := checkRange_eq hc hname howner hn minimum maximum
    change catalog.check s ⟨subject, note, .range minimum maximum⟩ = _ at hcheck
    rw [hcheck, holds_range_iff hc hname howner hn rfl]
    by_cases h : s.isEnabled owner.name = true ∧ ¬ (minimum ≤ n ∧ n ≤ maximum)
    · exact .inr ⟨fun hin => h.2 (hin h.1), _, if_pos h, .range rfl hn⟩
    · exact .inl ⟨fun hon => Decidable.not_not.1 fun hout => h ⟨hon, hout⟩, if_neg h⟩

theorem check_eq_none_iff (hr : r.Sound catalog) (hs : s.Numbered catalog) :
    catalog.check s r = none ↔ r.Holds catalog s := by
  rcases check_cases hr hs with ⟨hholds, hnone⟩ | ⟨hbroken, v, hv, _⟩
  · exact iff_of_true hnone hholds
  · exact iff_of_false (by rw [hv]; simp) hbroken

/-- A violation is reported only of a rule that does not hold, and it is the one that belongs to this rule. -/
theorem reports_of_check (hr : r.Sound catalog) (hs : s.Numbered catalog) {v : Violation}
    (hv : catalog.check s r = some v) : ¬ r.Holds catalog s ∧ r.Reports s v := by
  rcases check_cases hr hs with ⟨_, hnone⟩ | ⟨hbroken, w, hw, hreports⟩
  · rw [hnone] at hv
    cases hv
  · rw [hw, Option.some.injEq] at hv
    subst hv
    exact ⟨hbroken, hreports⟩

end Catalog

namespace RuleSet

variable {catalog : Catalog} {rules : RuleSet catalog} {s : Snapshot}

/-- The rules in the order in which a run evaluates them. -/
def evaluated (rules : RuleSet catalog) : List Rule :=
  catalog.identifiers.flatMap rules.withSubject

theorem violations_eq_filterMap (rules : RuleSet catalog) (s : Snapshot) :
    rules.violations s = rules.evaluated.filterMap (catalog.check s) := by
  rw [violations, evaluated, List.filterMap_flatMap]

/-- No rule is lost in the walk, since every subject is a name of the catalog. -/
theorem mem_evaluated_iff {r : Rule} : r ∈ rules.evaluated ↔ r ∈ rules.rules := by
  simp only [evaluated, withSubject_eq_filter, List.mem_flatMap, List.mem_filter, beq_iff_eq]
  constructor
  · rintro ⟨name, _, hr, _⟩
    exact hr
  · intro hr
    exact ⟨r.subject, (sound_of_mem hr).known _ List.mem_cons_self, hr, rfl⟩

theorem exists_reports {r : Rule} (hr : r ∈ rules.rules) (hs : s.Numbered catalog)
    (h : ¬ r.Holds catalog s) : ∃ v, r.Reports s v := by
  rcases Catalog.check_cases (sound_of_mem hr) hs with ⟨hholds, _⟩ | ⟨_, v, _, hreports⟩
  · exact absurd hholds h
  · exact ⟨v, hreports⟩

/-- The violations of a snapshot are the reports of the rules that it breaks. -/
theorem mem_violations_iff (hs : s.Numbered catalog) {v : Violation} :
    v ∈ rules.violations s ↔ ∃ r ∈ rules.rules, ¬ r.Holds catalog s ∧ r.Reports s v := by
  simp only [violations_eq_filterMap, List.mem_filterMap, mem_evaluated_iff]
  refine exists_congr fun r => and_congr_right fun hr => ⟨Catalog.reports_of_check (sound_of_mem hr) hs, ?_⟩
  rintro ⟨hbroken, hreports⟩
  rcases Catalog.check_cases (sound_of_mem hr) hs with ⟨hholds, _⟩ | ⟨_, w, hw, hreports'⟩
  · exact absurd hholds hbroken
  · rw [hw, hreports.unique hreports']

/-- A snapshot without violations is one in which every rule holds. -/
theorem violations_eq_nil_iff (hs : s.Numbered catalog) :
    rules.violations s = [] ↔ ∀ r ∈ rules.rules, r.Holds catalog s := by
  rw [violations_eq_filterMap, List.filterMap_eq_nil_iff]
  simp only [mem_evaluated_iff]
  apply forall₂_congr
  intro r hr
  exact Catalog.check_eq_none_iff (sound_of_mem hr) hs

end RuleSet
end FeatureCert
