import FeatureCert.Proofs.Consistent
import FeatureCert.Proofs.Order

/-!
Exclusions by pairs. However often a pair is declared, in either order and with whatever notes, its first
declaration alone is kept and checked; so a run reports the pair once, in the words of that declaration, and
turning declarations round changes no verdict.
-/
namespace FeatureCert

theorem map_eq_map_of_forall₂ {R : α → β → Prop} {f : α → γ} {g : β → γ} {as : List α} {bs : List β}
    (h : List.Forall₂ R as bs) (hfg : ∀ a b, R a b → f a = g b) : as.map f = bs.map g := by
  rw [← List.forall₂_eq_eq_eq, List.forall₂_map_left_iff, List.forall₂_map_right_iff]
  exact h.imp hfg

namespace Rule

variable {r q : Rule} {a b : String} {p u : String × String}

/-- A rule excludes two names from each other, in either order. -/
def Excludes (r : Rule) (a b : String) : Prop :=
  (r.subject = a ∧ r.constraint = .excludes b) ∨ (r.subject = b ∧ r.constraint = .excludes a)

instance (r : Rule) (a b : String) : Decidable (r.Excludes a b) :=
  inferInstanceAs (Decidable (_ ∨ _))

theorem excludes_comm : r.Excludes a b ↔ r.Excludes b a := or_comm

/-- Exclusion between two names does not ask which of them is the subject. -/
theorem excludes_iff :
    r.Excludes a b ↔ ∃ p, r.exclusion? = some p ∧ samePair (a, b) p = true := by
  simp only [Excludes, samePair_iff]
  cases hconstraint : r.constraint with
  | excludes target =>
    simp only [exclusion?, hconstraint, Option.some.injEq, Constraint.excludes.injEq, exists_eq_left',
      Prod.mk.injEq]
    grind
  | _ => simp [exclusion?, hconstraint]

theorem samePair_comm : samePair p u = samePair u p := by
  rw [Bool.eq_iff_iff, samePair_iff, samePair_iff]
  grind

theorem samePair_swap : samePair p.swap u = samePair p u := by
  rw [Bool.eq_iff_iff, samePair_iff, samePair_iff, Prod.ext_iff, Prod.ext_iff]
  simp only [Prod.fst_swap, Prod.snd_swap]
  grind

/-- Exclusions of the same pair repeat each other. -/
theorem repeatsExclusion_of_excludes (hr : r.Excludes a b) (hq : q.Excludes a b) :
    r.repeatsExclusion q = true := by
  obtain ⟨p, hp, hpair⟩ := excludes_iff.1 hr
  obtain ⟨u, hu, hpair'⟩ := excludes_iff.1 hq
  exact repeatsExclusion_iff.2 ⟨p, u, hp, hu, samePair_trans (samePair_comm ▸ hpair) hpair'⟩

/-- What repeats the exclusion of a pair is an exclusion of that pair. -/
theorem excludes_of_repeats (h : r.repeatsExclusion q = true) (hr : r.Excludes a b) :
    q.Excludes a b := by
  obtain ⟨p, u, hp, hu, hpair⟩ := repeatsExclusion_iff.1 h
  obtain ⟨p', hp', hpair'⟩ := excludes_iff.1 hr
  rw [hp, Option.some.injEq] at hp'
  subst hp'
  exact excludes_iff.2 ⟨u, hu, samePair_trans hpair' hpair⟩

end Rule

/-- Of the exclusions of a pair only the first is kept, and none where one was kept before. -/
theorem filter_dropRepeats (kept rest : List Rule) (a b : String) :
    (dropRepeats kept rest).filter (·.Excludes a b) =
      if ∃ k ∈ kept, k.Excludes a b then [] else (rest.find? (·.Excludes a b)).toList := by
  -- Over the declarations, for whatever was kept before: an exclusion of the pair is dropped exactly
  -- where one is among the kept, and once kept it drops the later ones.
  induction rest generalizing kept with
  | nil => simp [dropRepeats]
  | cons r rest ih =>
    unfold dropRepeats
    cases hr : kept.any r.repeatsExclusion with
    | true =>
      obtain ⟨k, hk, hrepeats⟩ := List.any_eq_true.1 hr
      rw [if_pos rfl, ih]
      by_cases hexcludes : r.Excludes a b
      · have hkept : ∃ k ∈ kept, k.Excludes a b :=
          ⟨k, hk, Rule.excludes_of_repeats hrepeats hexcludes⟩
        rw [if_pos hkept, if_pos hkept]
      · rw [List.find?_cons_of_neg (by simpa using hexcludes)]
    | false =>
      rw [if_neg (by simp)]
      by_cases hexcludes : r.Excludes a b
      · have hnone : ¬ ∃ k ∈ kept, k.Excludes a b := by
          rintro ⟨k, hk, hkexcludes⟩
          have hrepeats := Rule.repeatsExclusion_of_excludes hexcludes hkexcludes
          rw [List.any_eq_true.2 ⟨k, hk, hrepeats⟩] at hr
          cases hr
        have hnext : ∃ k ∈ kept ++ [r], k.Excludes a b := ⟨r, by simp, hexcludes⟩
        rw [List.filter_cons_of_pos (by simpa using hexcludes), ih, if_pos hnext, if_neg hnone,
          List.find?_cons_of_pos (by simpa using hexcludes)]
        rfl
      · have hsame : (∃ k ∈ kept ++ [r], k.Excludes a b) ↔ ∃ k ∈ kept, k.Excludes a b := by
          simp [or_and_right, exists_or, hexcludes]
        rw [List.filter_cons_of_neg (by simpa using hexcludes), ih,
          List.find?_cons_of_neg (by simpa using hexcludes)]
        simp only [hsame]

/-- A violation reports two names as excluding each other, in either order. -/
def Violation.Conflicts (v : Violation) (a b : String) : Prop :=
  (v.subject = a ∧ v.problem = .conflictingExclusion b v.problem.note) ∨
    (v.subject = b ∧ v.problem = .conflictingExclusion a v.problem.note)

instance (v : Violation) (a b : String) : Decidable (v.Conflicts a b) :=
  inferInstanceAs (Decidable (_ ∨ _))

/-- The problems of entries are no conflicts. -/
theorem Complaints.not_conflicts {catalog : Catalog} {selection : List Entry}
    {vs : List Violation} (h : Complaints catalog selection vs) (a b : String) :
    ∀ v ∈ vs, ¬ v.Conflicts a b := by
  induction h with
  | nil => simp
  | fit _ _ _ _ ih => exact ih
  | unknown _ _ _ ih => exact List.forall_mem_cons.2 ⟨by simp [Violation.Conflicts], ih⟩
  | unfit _ _ _ _ _ ih => exact List.forall_mem_cons.2 ⟨by simp [Violation.Conflicts], ih⟩

/-- A report is a conflict of two names exactly where its rule excludes them. -/
theorem Rule.Reports.conflicts_iff {s : Snapshot} {r : Rule} {v : Violation} (h : r.Reports s v)
    (a b : String) : v.Conflicts a b ↔ r.Excludes a b := by
  cases h with
  | excludes hr => simp [Violation.Conflicts, Excludes, hr, Problem.note]
  | requires hr => simp [Violation.Conflicts, Excludes, hr]
  | requiresAny hr => simp [Violation.Conflicts, Excludes, hr]
  | range hr _ => simp [Violation.Conflicts, Excludes, hr]

/-- The check of an exclusion of two names. -/
theorem Catalog.check_of_excludes {r : Rule} {a b : String} (h : r.Excludes a b)
    (catalog : Catalog) (s : Snapshot) :
    ∃ target, r.constraint = .excludes target ∧
      catalog.check s r = if s.isEnabled a ∧ s.isEnabled b then
        some ⟨r.subject, .conflictingExclusion target r.note⟩ else none := by
  rcases h with ⟨rfl, hconstraint⟩ | ⟨rfl, hconstraint⟩
  · exact ⟨b, hconstraint, by simp [check, hconstraint]⟩
  · exact ⟨a, hconstraint, by simp [check, hconstraint, and_comm]⟩

namespace RuleSet

variable {catalog : Catalog} {rules : RuleSet catalog} {declared : List Rule} {s : Snapshot}
  {a b : String}

/-- The conflicts of two names that a run reports come of the first declaration that excludes them. -/
theorem filter_violations (h : RuleSet.build catalog declared = .ok rules)
    (hs : s.Numbered catalog) :
    (rules.violations s).filter (·.Conflicts a b) =
      ((declared.find? (·.Excludes a b)).bind (catalog.check s)).toList := by
  have hperm : (rules.violations s).Perm (rules.rules.filterMap (catalog.check s)) := by
    rw [violations_eq_filterMap]
    exact (evaluated_perm h).filterMap _
  have hrules : (rules.rules.filterMap (catalog.check s)).filter (·.Conflicts a b) =
      (rules.rules.filter (·.Excludes a b)).filterMap (catalog.check s) := by
    rw [List.filter_filterMap, List.filterMap_filter]
    apply List.filterMap_congr
    intro r hr
    cases hcheck : catalog.check s r with
    | none => simp
    | some v =>
      have hreports := (Catalog.reports_of_check (sound_of_mem hr) hs hcheck).2
      simp only [← hreports.conflicts_iff]
      rfl
  have hfirst := hperm.filter (·.Conflicts a b)
  rw [hrules, (build_ok h).1, filter_dropRepeats, if_neg (by simp)] at hfirst
  cases hfind : declared.find? (·.Excludes a b) with
  | none => simpa [hfind] using hfirst
  | some r =>
    rw [hfind] at hfirst
    cases hcheck : catalog.check s r with
    | none => simpa [hcheck] using hfirst
    | some v => simpa [hcheck] using hfirst

/-- The same of a verdict, whose problems are no conflicts. -/
theorem filter_verdict (h : RuleSet.build catalog declared = .ok rules) (hs : s.Numbered catalog)
    {problems : List Violation} (hproblems : ∀ v ∈ problems, ¬ v.Conflicts a b) :
    (rules.verdict s problems).violations.filter (·.Conflicts a b) =
      ((declared.find? (·.Excludes a b)).bind (catalog.check s)).toList := by
  have hnone : problems.filter (·.Conflicts a b) = [] := by
    rw [List.filter_eq_nil_iff]
    intro v hv
    simpa using hproblems v hv
  change (problems ++ rules.violations s).filter _ = _
  rw [List.filter_append, hnone, List.nil_append, filter_violations h hs]

/-- Of two names that exclude each other one conflict is told where both are on, however often the exclusion
is declared. -/
theorem countP_conflicts (h : RuleSet.build catalog declared = .ok rules) (hs : s.Numbered catalog)
    {problems : List Violation} (hproblems : ∀ v ∈ problems, ¬ v.Conflicts a b) :
    (rules.verdict s problems).violations.countP (·.Conflicts a b) =
      if (∃ r ∈ declared, r.Excludes a b) ∧ s.isEnabled a ∧ s.isEnabled b then 1 else 0 := by
  rw [List.countP_eq_length_filter, filter_verdict h hs hproblems]
  cases hfind : declared.find? (·.Excludes a b) with
  | none =>
    have hnone : ¬ ∃ r ∈ declared, r.Excludes a b := by
      simpa using List.find?_eq_none.1 hfind
    rw [if_neg fun hboth => hnone hboth.1]
    rfl
  | some r =>
    have hexcludes : r.Excludes a b := by simpa using List.find?_some hfind
    have hsome : ∃ r ∈ declared, r.Excludes a b :=
      ⟨r, List.mem_of_find?_eq_some hfind, hexcludes⟩
    obtain ⟨target, _, hcheck⟩ := Catalog.check_of_excludes hexcludes catalog s
    rw [Option.bind_some, hcheck]
    by_cases hon : s.isEnabled a ∧ s.isEnabled b
    · rw [if_pos hon, if_pos ⟨hsome, hon⟩]
      rfl
    · rw [if_neg hon, if_neg fun hboth => hon hboth.2]
      rfl

/-- A conflict of two names is reported in the words of the first declaration that excludes them. -/
theorem eq_of_conflicts (h : RuleSet.build catalog declared = .ok rules) (hs : s.Numbered catalog)
    {problems : List Violation} (hproblems : ∀ v ∈ problems, ¬ v.Conflicts a b) {v : Violation}
    (hv : v ∈ (rules.verdict s problems).violations) (hconflicts : v.Conflicts a b) :
    ∃ r target, declared.find? (·.Excludes a b) = some r ∧ r.constraint = .excludes target ∧
      v = ⟨r.subject, .conflictingExclusion target r.note⟩ := by
  have hmem : v ∈ (rules.verdict s problems).violations.filter (·.Conflicts a b) :=
    List.mem_filter.2 ⟨hv, decide_eq_true hconflicts⟩
  rw [filter_verdict h hs hproblems, Option.mem_toList, Option.bind_eq_some_iff] at hmem
  obtain ⟨r, hfind, hsome⟩ := hmem
  have hexcludes : r.Excludes a b := by simpa using List.find?_some hfind
  obtain ⟨target, hconstraint, hcheck⟩ := Catalog.check_of_excludes hexcludes catalog s
  rw [hcheck] at hsome
  split at hsome
  · exact ⟨r, target, hfind, hconstraint, (Option.some.inj hsome).symm⟩
  · cases hsome

/-- The query on two names finds what was declared of them, in either order. -/
theorem excludes_iff (h : RuleSet.build catalog declared = .ok rules) :
    rules.excludes a b = true ↔ ∃ r ∈ declared, r.Excludes a b := by
  have hkept : rules.excludes a b = true ↔ ∃ r ∈ rules.rules, r.Excludes a b := by
    simp only [excludes, List.any_eq_true, Option.any_eq_true, Rule.excludes_iff]
  rw [hkept, (build_ok h).1]
  constructor
  · rintro ⟨r, hr, hexcludes⟩
    exact ⟨r, mem_of_mem_dropRepeats hr, hexcludes⟩
  · rintro ⟨r, hr, hexcludes⟩
    rcases @mem_or_repeats_of_mem [] declared r hr with hmem | ⟨k, hk, hrepeats⟩
    · exact ⟨r, hmem, hexcludes⟩
    · exact ⟨k, hk, Rule.excludes_of_repeats hrepeats hexcludes⟩

theorem excludes_comm (h : RuleSet.build catalog declared = .ok rules) (a b : String) :
    rules.excludes a b = rules.excludes b a := by
  rw [Bool.eq_iff_iff, excludes_iff h, excludes_iff h]
  simp only [@Rule.excludes_comm _ a b]

end RuleSet

/-- The same rule with the ends of its exclusion turned round. -/
def Rule.reversed (r : Rule) : Rule :=
  match r.constraint with
  | .excludes target => ⟨target, r.note, .excludes r.subject⟩
  | _ => r

/-- A rule as it was declared, or turned round. -/
def Rule.Turns (r r' : Rule) : Prop := r' = r ∨ r' = r.reversed

namespace Rule

variable {catalog : Catalog} {r q r' q' : Rule}

/-- Only exclusions change when they are turned round. -/
theorem reversed_cases (r : Rule) :
    r.reversed = r ∨ ∃ target, r.constraint = .excludes target ∧
      r.reversed = ⟨target, r.note, .excludes r.subject⟩ := by
  cases hconstraint : r.constraint with
  | excludes target => exact .inr ⟨target, rfl, by rw [reversed, hconstraint]⟩
  | _ => exact .inl (by rw [reversed, hconstraint])

theorem Turns.cases (h : r.Turns r') :
    r' = r ∨ ∃ target, r.constraint = .excludes target ∧
      r' = ⟨target, r.note, .excludes r.subject⟩ := by
  rcases h with h | h
  · exact .inl h
  · rw [h]
    exact r.reversed_cases

theorem repeatsExclusion_comm (r q : Rule) : r.repeatsExclusion q = q.repeatsExclusion r := by
  unfold repeatsExclusion
  cases r.exclusion? <;> cases q.exclusion? <;> simp [samePair_comm]

/-- A rule that is turned round repeats the same exclusions. -/
theorem Turns.repeatsExclusion_left (h : r.Turns r') (q : Rule) :
    r.repeatsExclusion q = r'.repeatsExclusion q := by
  rcases h.cases with rfl | ⟨target, hconstraint, rfl⟩
  · rfl
  · rw [repeatsExclusion, repeatsExclusion, exclusion?, hconstraint]
    cases q.exclusion? with
    | none => rfl
    | some p => exact (samePair_swap (p := (r.subject, target))).symm

theorem Turns.repeatsExclusion (hr : r.Turns r') (hq : q.Turns q') :
    r.repeatsExclusion q = r'.repeatsExclusion q' := by
  rw [hr.repeatsExclusion_left, repeatsExclusion_comm, hq.repeatsExclusion_left, repeatsExclusion_comm]

/-- Turning a rule round asks for the same two capabilities. -/
theorem Turns.sound (h : r.Turns r') (hr : r.Sound catalog) : r'.Sound catalog := by
  rcases h.cases with rfl | ⟨target, hconstraint, rfl⟩
  · exact hr
  · have hobjects : r.objects = [target] := by rw [objects, hconstraint]; rfl
    have hends : ∀ name ∈ [target, r.subject], name ∈ catalog.identifiers := by
      intro name hname
      apply hr.known
      rw [identifiers, hobjects]
      exact (List.Perm.swap _ _ _).mem_iff.1 hname
    have hne : r.subject ≠ target := by simpa [hobjects] using hr.irreflexive
    refine ⟨hends, ?_, fun _ _ he => by cases he⟩
    simpa [objects, Constraint.objects] using hne.symm

theorem Turns.isSome_check (h : r.Turns r') (catalog : Catalog) (s : Snapshot) :
    (catalog.check s r).isSome = (catalog.check s r').isSome := by
  rcases h.cases with rfl | ⟨target, hconstraint, rfl⟩
  · rfl
  · simp only [Catalog.check, hconstraint, Bool.and_comm (s.isEnabled target)]
    split <;> rfl

end Rule

/-- What is dropped is the same whichever way the exclusions are turned. -/
theorem forall₂_dropRepeats {kept kept' rest rest' : List Rule}
    (hkept : List.Forall₂ Rule.Turns kept kept') (hrest : List.Forall₂ Rule.Turns rest rest') :
    List.Forall₂ Rule.Turns (dropRepeats kept rest) (dropRepeats kept' rest') := by
  -- The kept rules stay turns of each other, so both sides take the same branch at every rule.
  induction hrest generalizing kept kept' with
  | nil => exact .nil
  | @cons r r' rest rest' hr _ ih =>
    have hany : kept.any r.repeatsExclusion = kept'.any r'.repeatsExclusion := by
      have hmap := map_eq_map_of_forall₂ hkept fun q q' hq => hr.repeatsExclusion hq
      simpa [List.any_map] using congrArg (List.any · id) hmap
    unfold dropRepeats
    rw [hany]
    split
    · exact ih hkept
    · exact .cons hr (ih (List.rel_append hkept (.cons hr .nil)))

namespace RuleSet

variable {catalog : Catalog} {rules : RuleSet catalog} {declared turned : List Rule} {s : Snapshot}

theorem length_violations (h : RuleSet.build catalog declared = .ok rules) (s : Snapshot) :
    (rules.violations s).length =
      (dropRepeats [] declared).countP fun r => (catalog.check s r).isSome := by
  rw [violations_eq_filterMap, List.length_filterMap_eq_countP, (evaluated_perm h).countP_eq,
    (build_ok h).1]

theorem sound_of_turns (hdeclared : ∀ r ∈ declared, r.Sound catalog)
    (hturned : List.Forall₂ Rule.Turns declared turned) : ∀ r ∈ turned, r.Sound catalog := by
  induction hturned with
  | nil => exact hdeclared
  | cons hr _ ih =>
    rw [List.forall_mem_cons] at hdeclared ⊢
    exact ⟨hr.sound hdeclared.1, ih hdeclared.2⟩

/-- Turned rules are accepted as well, and as many of them are broken. -/
theorem exists_build_of_turns (h : RuleSet.build catalog declared = .ok rules)
    (hturned : List.Forall₂ Rule.Turns declared turned) :
    ∃ rules', RuleSet.build catalog turned = .ok rules' ∧
      ∀ s, (rules'.violations s).length = (rules.violations s).length := by
  obtain ⟨rules', hrules'⟩ := exists_build_iff.2 (sound_of_turns (build_ok h).2 hturned)
  refine ⟨rules', hrules', fun s => ?_⟩
  rw [length_violations h, length_violations hrules']
  have hmap := map_eq_map_of_forall₂ (forall₂_dropRepeats .nil hturned)
    fun r r' hr => hr.isSome_check catalog s
  simpa [List.countP_map] using (congrArg (List.countP id) hmap).symm

end RuleSet

/-- Every excluded pair is reported at most once, exactly where both its names are on, and in the words of
its first declaration; the query on pairs tells what was declared; and turning declared exclusions round
changes neither whether a selection passes nor how much is reported. -/
theorem Tables.exclusions_of_validate {id : String} {capabilities : List Capability}
    {declared : List Rule} {tables : Tables} {selection : List Entry} {verdict : Verdict}
    (hbuild : (build id capabilities declared).result = .ok tables)
    (h : (tables.validate selection).result = .ok verdict) :
    ∃ s problems, (tables.normalize selection).result = .ok (s, problems) ∧
      (∀ a b, verdict.violations.countP (·.Conflicts a b) =
        if (∃ r ∈ declared, r.Excludes a b) ∧ s.isEnabled a ∧ s.isEnabled b then 1 else 0) ∧
      (∀ a b, ∀ v ∈ verdict.violations, v.Conflicts a b →
        ∃ r target, declared.find? (·.Excludes a b) = some r ∧ r.constraint = .excludes target ∧
          v = ⟨r.subject, .conflictingExclusion target r.note⟩) ∧
      (∀ a b, tables.rules.excludes a b = tables.rules.excludes b a ∧
        (tables.rules.excludes a b = true ↔ ∃ r ∈ declared, r.Excludes a b)) ∧
      ∀ turned, List.Forall₂ Rule.Turns declared turned →
        ∃ tables' again, (build id capabilities turned).result = .ok tables' ∧
          (tables'.validate selection).result = .ok again ∧ again.passed = verdict.passed ∧
          again.violations.length = verdict.violations.length := by
  obtain ⟨hcatalog, hrules⟩ := build_ok hbuild
  obtain ⟨s, problems, hnormal, rfl⟩ := validate_ok h
  have hn := catalog_normalize_of_result hnormal
  have hs := Catalog.numbered_normalize hn
  have hproblems := (Catalog.complaints_normalize hn).not_conflicts
  refine ⟨s, problems, hnormal, ?_, ?_, ?_, ?_⟩
  · intro a b
    exact RuleSet.countP_conflicts hrules hs (hproblems a b)
  · intro a b v hv hconflicts
    exact RuleSet.eq_of_conflicts hrules hs (hproblems a b) hv hconflicts
  · intro a b
    exact ⟨RuleSet.excludes_comm hrules a b, RuleSet.excludes_iff hrules⟩
  · intro turned hturned
    obtain ⟨rules', hrules', hlength⟩ := RuleSet.exists_build_of_turns hrules hturned
    have hsame : (rules'.verdict s problems).violations.length =
        (tables.rules.verdict s problems).violations.length := by
      simp [RuleSet.verdict, hlength]
    refine ⟨⟨tables.catalog, rules'⟩, rules'.verdict s problems,
      result_build_of_ok hcatalog hrules', ?_, ?_, hsame⟩
    · exact result_validate_of_normalize (result_normalize_of_catalog hn)
    · rw [Bool.eq_iff_iff, Verdict.passed, Verdict.passed, List.isEmpty_iff_length_eq_zero, hsame,
        List.isEmpty_iff_length_eq_zero]

/-- The sample declares one pair in both orders, the first time with a note, and turns are of all its rules. -/
theorem exclusions_of_sample :
    let selection : List Entry := [⟨.text "AES", .bool true⟩, ⟨.text "DES", .int 1⟩]
    let verdict : Verdict :=
      ⟨"sample", none, [⟨"DES", .conflictingExclusion "AES" (some "pick one")⟩], 3, 3⟩
    (Tables.build "sample" sampleCapabilities sampleRules).result = .ok sampleTables ∧
      (sampleTables.validate selection).result = .ok verdict ∧
      List.Forall₂ Rule.Turns sampleRules (sampleRules.map Rule.reversed) ∧
      ∃ s problems, (sampleTables.normalize selection).result = .ok (s, problems) ∧
        (∀ a b, verdict.violations.countP (·.Conflicts a b) =
          if (∃ r ∈ sampleRules, r.Excludes a b) ∧ s.isEnabled a ∧ s.isEnabled b then 1
          else 0) ∧
        (∀ a b, ∀ v ∈ verdict.violations, v.Conflicts a b →
          ∃ r target, sampleRules.find? (·.Excludes a b) = some r ∧
            r.constraint = .excludes target ∧
            v = ⟨r.subject, .conflictingExclusion target r.note⟩) ∧
        (∀ a b, sampleTables.rules.excludes a b = sampleTables.rules.excludes b a ∧
          (sampleTables.rules.excludes a b = true ↔ ∃ r ∈ sampleRules, r.Excludes a b)) ∧
        ∃ tables' again,
          (Tables.build "sample" sampleCapabilities (sampleRules.map Rule.reversed)).result =
            .ok tables' ∧
          (tables'.validate selection).result = .ok again ∧ again.passed = verdict.passed ∧
          again.violations.length = verdict.violations.length := by
  intro selection verdict
  have hverdict : (sampleTables.validate selection).result = .ok verdict := rfl
  have hturned : List.Forall₂ Rule.Turns sampleRules (sampleRules.map Rule.reversed) := by
    rw [List.forall₂_map_right_iff, List.forall₂_same]
    exact fun r _ => .inr rfl
  obtain ⟨s, problems, hnormal, hcount, hfirst, hquery, hturns⟩ :=
    Tables.exclusions_of_validate build_sample hverdict
  exact ⟨build_sample, hverdict, hturned, s, problems, hnormal, hcount, hfirst, hquery,
    hturns _ hturned⟩

end FeatureCert
