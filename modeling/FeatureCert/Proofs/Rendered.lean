import FeatureCert.Proofs.Tabulated
import FeatureCert.Report.Record

/-!
When a verdict can be reported. Its text and its record hold the numbers of broken ranges, and a record holds
those of the parameters that a certificate turns on; each has to be written as a decimal text, and one over
the digit limit has none. Nothing else in a report can fail.
-/
namespace FeatureCert

open FeatureCert.Numeral

/-- Numbers that the line of a violation writes out. -/
def Violation.numbers (v : Violation) : List Int :=
  match v.problem with
  | .outOfRangeParameter value minimum maximum _ => [value, minimum, maximum]
  | _ => []

theorem eq_exceeded_of_not_exists {x : Except DigitLimit α} (h : ¬ ∃ a, x = .ok a) :
    x = .error .exceeded := by
  cases x with
  | error limit =>
    cases limit
    rfl
  | ok a => exact absurd ⟨a, rfl⟩ h

/-- The line of a violation writes its own numbers only, since values are quoted by their problem. -/
theorem Violation.exists_line_iff {v : Violation} :
    (∃ line, v.line = .ok line) ↔ ∀ n ∈ v.numbers, Writable n := by
  have hline : (∃ line, v.line = .ok line) ↔ ∃ body, v.body = .ok body := by
    rw [line]
    exact exists_ok_bind_of_total fun _ => ⟨_, rfl⟩
  rw [hline]
  obtain ⟨subject, problem⟩ := v
  cases problem with
  | outOfRangeParameter value minimum maximum note =>
    simp [body, numbers, exists_ok_bind, Value.decimal_ok_iff, pure, Except.pure]
  | _ => exact iff_of_true ⟨_, rfl⟩ (by simp [numbers])

theorem Violation.exists_record_iff {v : Violation} :
    (∃ json, v.record = .ok json) ↔ ∀ n ∈ v.numbers, Writable n := by
  rw [← exists_line_iff, record]
  exact exists_ok_bind_of_total fun _ => ⟨_, rfl⟩

/-- Lines of violations are there exactly where each has its own. -/
theorem exists_violationText_iff {violations : List Violation} :
    (∃ text, violationText violations = .ok text) ↔ ∀ v ∈ violations, ∀ n ∈ v.numbers, Writable n := by
  simp only [← Violation.exists_line_iff]
  unfold violationText
  cases violations with
  | nil => exact iff_of_true ⟨_, rfl⟩ nofun
  | cons v rest =>
    rw [← exists_mapM_ok_iff, List.isEmpty_cons, if_neg (by decide)]
    exact exists_ok_bind_of_total fun _ => ⟨_, rfl⟩

/-- A snapshot has its definitions exactly where the number of each name that is on can be written. -/
theorem Snapshot.exists_defines_iff {s : Snapshot} {lead : String} :
    (∃ defines, s.defines lead = .ok defines) ↔
      ∀ p ∈ s.states, p.2.enabled = true → ∀ n, p.2.value = some n → Writable n := by
  have hdefine (p : String × State) :
      (∃ text, define lead p.1 p.2 = .ok text) ↔ ∀ n, p.2.value = some n → Writable n := by
    unfold define
    cases p.2.value with
    | none => exact iff_of_true ⟨_, rfl⟩ nofun
    | some n =>
      simp only [Option.some.injEq, forall_eq', ← Value.decimal_ok_iff]
      exact exists_ok_bind_of_total fun _ => ⟨_, rfl⟩
  rw [defines, exists_mapM_ok_iff]
  simp only [hdefine, List.mem_filter, and_imp]

namespace Verdict

variable {v : Verdict}

/-- A report has a text where each of its violations has a line. -/
theorem exists_text_iff :
    (∃ text, v.text = .ok text) ↔ ∀ w ∈ v.violations, ∀ n ∈ w.numbers, Writable n := by
  unfold text
  split
  · next hpassed =>
    have hnone : v.violations = [] := List.isEmpty_iff.1 hpassed
    rw [hnone]
    exact iff_of_true ⟨_, rfl⟩ nofun
  · rw [← exists_violationText_iff]
    exact exists_ok_bind_of_total fun _ => ⟨_, rfl⟩

/-- The record of a verdict needs the lines of all violations, and of a pass the definitions in addition. -/
theorem exists_record_iff : (∃ json, v.record = .ok json) ↔
    (∀ w ∈ v.violations, ∀ n ∈ w.numbers, Writable n) ∧
      ∀ c, v.certificate = some c → ∃ defines, c.snapshot.defines "" = .ok defines := by
  simp only [← Violation.exists_record_iff, ← exists_mapM_ok_iff]
  unfold record
  rw [exists_ok_bind, ← exists_and_right]
  refine exists_congr fun violations => and_congr_right fun _ => ?_
  cases v.certificate with
  | none => exact iff_of_true ⟨_, rfl⟩ nofun
  | some c =>
    simp only [Option.some.injEq, forall_eq']
    exact exists_ok_bind_of_total fun _ => ⟨_, rfl⟩

end Verdict

namespace RuleSet

variable {catalog : Catalog} {rules : RuleSet catalog} {s : Snapshot} {selection : List Entry}
  {problems : List Violation}

/-- Whether all numbers of each range that a snapshot breaks can be written: the value and both bounds. -/
def Quotable (rules : RuleSet catalog) (s : Snapshot) : Prop :=
  ∀ r ∈ rules.rules, ∀ minimum maximum n, r.constraint = .range minimum maximum →
    s.valueOf? r.subject = some n → ¬ r.Holds catalog s →
    Writable n ∧ Writable minimum ∧ Writable maximum

/-- A problem of a selection quotes its value as a text that is there already. -/
theorem numbers_eq_nil (h : Complaints catalog selection problems) : ∀ v ∈ problems, v.numbers = [] := by
  induction h with
  | nil => nofun
  | fit _ _ _ _ ih => exact ih
  | unknown _ _ _ ih => exact List.forall_mem_cons.2 ⟨rfl, ih⟩
  | unfit _ _ _ _ _ ih => exact List.forall_mem_cons.2 ⟨rfl, ih⟩

/-- Only broken ranges write numbers of a snapshot, namely the value and both bounds. -/
theorem writable_violations_iff (hs : s.Numbered catalog) :
    (∀ v ∈ rules.violations s, ∀ n ∈ v.numbers, Writable n) ↔ rules.Quotable s := by
  simp only [mem_violations_iff hs]
  constructor
  · intro h r hr minimum maximum n hrange hn hbroken
    simpa [Violation.numbers] using h _ ⟨r, hr, hbroken, .range hrange hn⟩
  · rintro h v ⟨r, hr, hbroken, hreports⟩
    cases hreports with
    | range hrange hn =>
      simpa [Violation.numbers] using h r hr _ _ _ hrange hn hbroken
    | requires _ | requiresAny _ | excludes _ => simp [Violation.numbers]

/-- The violations of a verdict can be told exactly where the numbers of broken ranges can be written. -/
theorem writable_verdict_iff (hs : s.Numbered catalog) (h : Complaints catalog selection problems) :
    (∀ v ∈ (rules.verdict s problems).violations, ∀ n ∈ v.numbers, Writable n) ↔ rules.Quotable s := by
  have hproblems : ∀ v ∈ problems, ∀ n ∈ v.numbers, Writable n := by
    intro v hv n hn
    rw [numbers_eq_nil h v hv] at hn
    cases hn
  rw [← writable_violations_iff hs]
  change (∀ v ∈ problems ++ rules.violations s, _) ↔ _
  rw [List.forall_mem_append, and_iff_right hproblems]

end RuleSet

/-- In a normal form it is the parameters that are on whose numbers are defined. -/
theorem Catalog.exists_defines_iff {catalog : Catalog} {selection : List Entry} {s : Snapshot}
    {problems : List Violation} (h : catalog.normalize selection = .ok (s, problems)) (lead : String) :
    (∃ defines, s.defines lead = .ok defines) ↔ ∀ c ∈ catalog.capabilities, s.isEnabled c.name = true →
      ∀ n, s.valueOf? c.name = some n → Writable n := by
  obtain ⟨state, rfl, _⟩ := exists_tabulate_of_normalize h
  rw [Snapshot.exists_defines_iff, tabulate, List.forall_mem_map]
  refine forall₂_congr fun c hc => ?_
  rw [← tabulate, isEnabled_tabulate_self hc, valueOf?_tabulate_self hc]

namespace Tables

variable {tables : Tables} {selection : List Entry} {verdict : Verdict}

/-- A verdict has a text exactly where the numbers of every broken range can be written, and so have its
violations. It has a record exactly where, besides, a certificate turns on no parameter with a number over the
digit limit. -/
theorem exists_rendering_iff (h : (tables.validate selection).result = .ok verdict) :
    ∃ s problems, (tables.normalize selection).result = .ok (s, problems) ∧
      ((∃ text, verdict.text = .ok text) ↔ tables.rules.Quotable s) ∧
      ((∃ text, violationText verdict.violations = .ok text) ↔ tables.rules.Quotable s) ∧
      ((∃ json, verdict.record = .ok json) ↔ tables.rules.Quotable s ∧ (verdict.passed = true →
        ∀ c ∈ tables.catalog.capabilities, s.isEnabled c.name = true →
          ∀ n, s.valueOf? c.name = some n → Writable n)) := by
  obtain ⟨s, problems, hnormal, rfl⟩ := validate_ok h
  have hn := catalog_normalize_of_result hnormal
  have hwritable : (∀ v ∈ (tables.rules.verdict s problems).violations, ∀ n ∈ v.numbers, Writable n) ↔
      tables.rules.Quotable s :=
    RuleSet.writable_verdict_iff (Catalog.numbered_normalize hn) (Catalog.complaints_normalize hn)
  refine ⟨s, problems, hnormal, Verdict.exists_text_iff.trans hwritable,
    exists_violationText_iff.trans hwritable, ?_⟩
  rw [Verdict.exists_record_iff, hwritable, ← Catalog.exists_defines_iff hn "", RuleSet.certificate_verdict]
  refine and_congr_right fun _ => ?_
  cases (tables.rules.verdict s problems).passed with
  | false => exact iff_of_true nofun nofun
  | true => simp

/-- Here a number out of its range is short, and so all is told. -/
theorem exists_rendering_of_sample :
    let selection : List Entry := [⟨.text "AES", .bool true⟩, ⟨.text "ROUNDS", .int 20⟩]
    let verdict : Verdict :=
      ⟨"sample", none, [⟨"ROUNDS", .outOfRangeParameter 20 1 8 none⟩], 3, 3⟩
    (sampleTables.validate selection).result = .ok verdict ∧
      ∃ s problems, (sampleTables.normalize selection).result = .ok (s, problems) ∧
        sampleTables.rules.Quotable s ∧ ∃ text, verdict.text = .ok text := by
  intro selection verdict
  have hverdict : (sampleTables.validate selection).result = .ok verdict := rfl
  have htext : ∃ text, verdict.text = .ok text := Verdict.exists_text_iff.2 (by decide +kernel)
  obtain ⟨s, problems, hnormal, hquotable, _⟩ := exists_rendering_iff hverdict
  exact ⟨hverdict, s, problems, hnormal, hquotable.1 htext, htext⟩

theorem lt_ten_pow (k : Nat) : k < Nat.pow 10 k := Nat.lt_pow_self (by decide)

/-- A number over the digit limit is out of every range with short bounds, and cannot be quoted. -/
theorem not_quotable_of_long_number {n : Nat} (hn : Nat.pow 10 maxDigits ≤ n) {s : Snapshot}
    (hon : s.isEnabled "AES" = true) (hvalue : s.valueOf? "ROUNDS" = some (n : Int)) :
    ¬ sampleTables.rules.Quotable s := by
  intro hquotable
  have hlong : maxDigits < n := Nat.lt_of_lt_of_le (lt_ten_pow maxDigits) hn
  have hbroken : ¬ Rule.Holds sampleCatalog s { subject := "ROUNDS", constraint := .range 1 8 } := by
    rw [@Catalog.holds_range_iff sampleCatalog s _
      { name := "ROUNDS", kind := .parameter, default := .number 4, owner := some "AES" } { name := "AES" }
      (by simp [sampleCatalog, sampleCapabilities]) rfl rfl n hvalue 1 8 rfl]
    intro hin
    have hlimit : 8 < maxDigits := by decide
    have hmaximum := (hin hon).2
    omega
  obtain ⟨hwritable, _⟩ := hquotable _ List.mem_cons_self 1 8 n rfl hvalue hbroken
  exact Nat.not_lt_of_ge hn hwritable

/-- A parameter set to a number that has one digit too many. While its owner is on, the number is out of
range: there is a verdict, and no report of it. While its owner is off, the verdict is a pass without a
record. -/
theorem no_rendering_of_sample :
    let rounds : Entry := ⟨.text "ROUNDS", .int (Nat.pow 10 maxDigits : Nat)⟩
    (build "sample" sampleCapabilities sampleRules).result = .ok sampleTables ∧
      (∃ verdict, (sampleTables.validate [⟨.text "AES", .bool true⟩, rounds]).result = .ok verdict ∧
        verdict.text = .error .exceeded ∧ violationText verdict.violations = .error .exceeded ∧
        verdict.record = .error .exceeded) ∧
      ∃ verdict, (sampleTables.validate [rounds]).result = .ok verdict ∧ verdict.passed = true ∧
        verdict.record = .error .exceeded := by
  generalize hn : Nat.pow 10 maxDigits = n
  intro rounds
  have hlong : ¬ Writable (n : Int) := Nat.not_lt_of_ge (Nat.le_of_eq hn)
  have hrejected : (sampleTables.normalize [⟨.text "AES", .bool true⟩, rounds]).result =
      .ok (⟨[("AES", ⟨true, none, true⟩), ("DES", ⟨false, none, false⟩), ("RNG", ⟨true, none, false⟩),
        ("ROUNDS", ⟨true, some n, true⟩)]⟩, []) := rfl
  have hcatalog := catalog_normalize_of_result hrejected
  have hwritable := @RuleSet.writable_verdict_iff _ sampleTables.rules _ _ _
    (Catalog.numbered_normalize hcatalog) (Catalog.complaints_normalize hcatalog)
  have hnot := mt hwritable.1 (not_quotable_of_long_number (Nat.le_of_eq hn) rfl rfl)
  have haccepted : (sampleTables.normalize [rounds]).result =
      .ok (⟨[("AES", ⟨false, none, false⟩), ("DES", ⟨false, none, false⟩), ("RNG", ⟨true, none, false⟩),
        ("ROUNDS", ⟨true, some n, true⟩)]⟩, []) := rfl
  refine ⟨build_sample, ⟨_, result_validate_of_normalize hrejected, ?_, ?_, ?_⟩,
    _, result_validate_of_normalize haccepted, rfl, ?_⟩
  · exact eq_exceeded_of_not_exists fun h => hnot (Verdict.exists_text_iff.1 h)
  · exact eq_exceeded_of_not_exists fun h => hnot (exists_violationText_iff.1 h)
  · exact eq_exceeded_of_not_exists fun h => hnot (Verdict.exists_record_iff.1 h).1
  · refine eq_exceeded_of_not_exists fun h => hlong ?_
    have hdefines := (Verdict.exists_record_iff.1 h).2 _ rfl
    exact Snapshot.exists_defines_iff.1 hdefines ("ROUNDS", ⟨true, some n, true⟩) (by simp) rfl n rfl

end Tables
end FeatureCert
