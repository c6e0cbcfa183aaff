import FeatureCert.Proofs.Breach
import Mathlib.Data.List.Forall2

/-!
The order of a verdict. The walk over the catalog's names meets every kept rule once, by the position of its
subject and then by its own position; the broken rules among them are reported in that order.
-/
namespace FeatureCert

/-- The order of the walk on rules with their declared positions. -/
def Precedes (catalog : Catalog) (p q : Rule × Nat) : Prop :=
  ∃ i j, catalog.indexOf? p.1.subject = some i ∧ catalog.indexOf? q.1.subject = some j ∧
    (i < j ∨ i = j ∧ p.2 < q.2)

theorem Precedes.ne {catalog : Catalog} {p q : Rule × Nat} (h : Precedes catalog p q) : p ≠ q := by
  rintro rfl
  obtain ⟨i, j, hi, hj, hlt⟩ := h
  rw [hi, Option.some.injEq] at hj
  omega

/-- What the rules of a walk come to: the broken ones in order, each with its report. -/
structure Listed (catalog : Catalog) (declared : List Rule) (s : Snapshot)
    (broken : List (Rule × Nat)) (reported : List Violation) : Prop where
  mem_iff : ∀ p, p ∈ broken ↔ p ∈ keptAt declared ∧ ¬ p.1.Holds catalog s
  ordered : broken.Pairwise (Precedes catalog)
  reports : List.Forall₂ (fun p v => p.1.Reports s v) broken reported

theorem Catalog.indexOf?_getElem (catalog : Catalog) {i : Nat} (h : i < catalog.identifiers.length) :
    catalog.indexOf? catalog.identifiers[i] = some i :=
  indexOf?_eq_some_iff.2 (List.getElem?_eq_getElem h)

theorem pairwise_keptAt (declared : List Rule) :
    (keptAt declared).Pairwise fun p q => p.2 < q.2 := by
  have hpositions : (declared.zipIdx.map (·.2)).Pairwise (· < ·) := by
    rw [List.zipIdx_map_snd]
    exact List.pairwise_lt_range'
  exact (List.pairwise_map.1 hpositions).filter _

/-- The rules of a walk with their declared positions. -/
def visited (catalog : Catalog) (declared : List Rule) : List (Rule × Nat) :=
  catalog.identifiers.flatMap fun name => (keptAt declared).filter (·.1.subject == name)

section Visited

variable {catalog : Catalog} {declared : List Rule}

theorem subject_of_mem_filter {name : String} {p : Rule × Nat}
    (h : p ∈ (keptAt declared).filter (·.1.subject == name)) : p.1.subject = name :=
  beq_iff_eq.1 (List.mem_filter.1 h).2

theorem mem_visited_iff (hknown : ∀ p ∈ keptAt declared, p.1.subject ∈ catalog.identifiers)
    {p : Rule × Nat} : p ∈ visited catalog declared ↔ p ∈ keptAt declared := by
  simp only [visited, List.mem_flatMap, List.mem_filter, beq_iff_eq]
  constructor
  · rintro ⟨name, _, hp, _⟩
    exact hp
  · intro hp
    exact ⟨p.1.subject, hknown p hp, hp, rfl⟩

/-- Under one name the positions decide, and between two names the names do. -/
theorem pairwise_visited (catalog : Catalog) (declared : List Rule) :
    (visited catalog declared).Pairwise (Precedes catalog) := by
  rw [visited, List.pairwise_flatMap]
  constructor
  · intro name hname
    obtain ⟨i, hi, rfl⟩ := List.getElem_of_mem hname
    have hindex := catalog.indexOf?_getElem hi
    apply ((pairwise_keptAt declared).filter _).imp_of_mem
    intro p q hp hq hlt
    refine ⟨i, i, ?_, ?_, .inr ⟨rfl, hlt⟩⟩
    · rw [subject_of_mem_filter hp, hindex]
    · rw [subject_of_mem_filter hq, hindex]
  · rw [List.pairwise_iff_getElem]
    intro i j hi hj hlt p hp q hq
    refine ⟨i, j, ?_, ?_, .inl hlt⟩
    · rw [subject_of_mem_filter hp, catalog.indexOf?_getElem hi]
    · rw [subject_of_mem_filter hq, catalog.indexOf?_getElem hj]

/-- The walk over subjects meets every kept rule once. -/
theorem visited_perm (hknown : ∀ p ∈ keptAt declared, p.1.subject ∈ catalog.identifiers) :
    (visited catalog declared).Perm (keptAt declared) := by
  have hvisited : (visited catalog declared).Nodup :=
    (pairwise_visited catalog declared).imp Precedes.ne
  have hkept : (keptAt declared).Nodup := by
    apply (pairwise_keptAt declared).imp
    rintro p q hlt rfl
    exact absurd hlt (Nat.lt_irrefl _)
  rw [List.perm_ext_iff_of_nodup hvisited hkept]
  intro p
  exact mem_visited_iff hknown

end Visited

namespace RuleSet

variable {catalog : Catalog} {rules : RuleSet catalog} {declared : List Rule} {s : Snapshot}

theorem rules_eq_keptAt (h : RuleSet.build catalog declared = .ok rules) :
    rules.rules = (keptAt declared).map (·.1) := by
  rw [(build_ok h).1, dropRepeats_eq_keptAt]

/-- Rules are filed under their subjects in the order of declaration. -/
theorem evaluated_eq_visited (h : RuleSet.build catalog declared = .ok rules) :
    rules.evaluated = (visited catalog declared).map (·.1) := by
  rw [evaluated, visited, List.map_flatMap]
  congr 1
  funext name
  rw [withSubject_eq_filter, rules_eq_keptAt h, List.filter_map]
  rfl

theorem sound_of_mem_keptAt (h : RuleSet.build catalog declared = .ok rules) {p : Rule × Nat}
    (hp : p ∈ keptAt declared) : p.1.Sound catalog := by
  have hmem : p.1 ∈ rules.rules := by
    rw [rules_eq_keptAt h]
    exact List.mem_map_of_mem hp
  exact sound_of_mem hmem

theorem subject_of_mem_keptAt (h : RuleSet.build catalog declared = .ok rules) :
    ∀ p ∈ keptAt declared, p.1.subject ∈ catalog.identifiers := by
  intro p hp
  exact (sound_of_mem_keptAt h hp).known _ List.mem_cons_self

/-- Every kept rule is evaluated exactly once. -/
theorem evaluated_perm (h : RuleSet.build catalog declared = .ok rules) :
    rules.evaluated.Perm rules.rules := by
  rw [evaluated_eq_visited h, rules_eq_keptAt h]
  exact (visited_perm (subject_of_mem_keptAt h)).map _

/-- Checking sound rules one by one reports each broken one, and nothing else. -/
theorem reports_filterMap {ps : List (Rule × Nat)} (hsound : ∀ p ∈ ps, p.1.Sound catalog)
    (hs : s.Numbered catalog) :
    List.Forall₂ (fun p v => p.1.Reports s v)
      (ps.filter fun p => (catalog.check s p.1).isSome)
      ((ps.map (·.1)).filterMap (catalog.check s)) := by
  induction ps with
  | nil => exact .nil
  | cons p rest ih =>
    have hrest := ih fun q hq => hsound q (List.mem_cons_of_mem _ hq)
    rw [List.map_cons]
    cases hcheck : catalog.check s p.1 with
    | none =>
      rw [List.filter_cons_of_neg (by simp [hcheck]), List.filterMap_cons_none hcheck]
      exact hrest
    | some v =>
      rw [List.filter_cons_of_pos (by simp [hcheck]), List.filterMap_cons_some hcheck]
      exact .cons (Catalog.reports_of_check (hsound p List.mem_cons_self) hs hcheck).2 hrest

/-- Each broken rule gives its own report, at its place in the walk. -/
theorem listed_violations (h : RuleSet.build catalog declared = .ok rules)
    (hs : s.Numbered catalog) :
    ∃ broken, Listed catalog declared s broken (rules.violations s) := by
  have hknown := subject_of_mem_keptAt h
  have hsound : ∀ p ∈ visited catalog declared, p.1.Sound catalog :=
    fun p hp => sound_of_mem_keptAt h ((mem_visited_iff hknown).1 hp)
  refine ⟨(visited catalog declared).filter fun p => (catalog.check s p.1).isSome, ?_, ?_, ?_⟩
  · intro p
    rw [List.mem_filter, mem_visited_iff hknown]
    apply and_congr_right
    intro hp
    rw [← Catalog.check_eq_none_iff (sound_of_mem_keptAt h hp) hs, Option.isSome_iff_ne_none]
  · exact (pairwise_visited catalog declared).filter _
  · rw [violations_eq_filterMap, evaluated_eq_visited h]
    exact reports_filterMap hsound hs

end RuleSet

/-- A verdict lists the problems of the entries, and then each broken rule once, in the order of the walk. -/
theorem Tables.listed_of_validate {id : String} {capabilities : List Capability}
    {declared : List Rule} {tables : Tables} {selection : List Entry} {verdict : Verdict}
    (hbuild : (build id capabilities declared).result = .ok tables)
    (h : (tables.validate selection).result = .ok verdict) :
    ∃ s problems broken reported, (tables.normalize selection).result = .ok (s, problems) ∧
      Complaints tables.catalog selection problems ∧
      verdict.violations = problems ++ reported ∧
      Listed tables.catalog declared s broken reported ∧
      tables.rules.rules = (keptAt declared).map (·.1) ∧
      tables.rules.evaluated.Perm tables.rules.rules ∧
      verdict.checkedRules = tables.rules.rules.length ∧
      verdict.checkedRules = tables.rules.evaluated.length := by
  obtain ⟨_, hrules⟩ := build_ok hbuild
  obtain ⟨s, problems, hnormal, rfl⟩ := validate_ok h
  have hn := catalog_normalize_of_result hnormal
  obtain ⟨broken, hlisted⟩ :=
    RuleSet.listed_violations hrules (Catalog.numbered_normalize hn)
  have hperm := RuleSet.evaluated_perm hrules
  exact ⟨s, problems, broken, tables.rules.violations s, hnormal, Catalog.complaints_normalize hn,
    rfl, hlisted, RuleSet.rules_eq_keptAt hrules, hperm, rfl, hperm.length_eq.symm⟩

/-- Three broken rules of the sample, in the order of their subjects and not in that of their declaration. -/
theorem listed_of_sample :
    let selection : List Entry := [⟨.text "TLS", .null⟩, ⟨.text "AES", .bool true⟩,
      ⟨.text "DES", .int 1⟩, ⟨.text "RNG", .bool false⟩, ⟨.text "ROUNDS", .int 20⟩]
    let verdict : Verdict := ⟨"sample", none, [⟨"TLS", .unknownCapability⟩,
      ⟨"AES", .missingDependency "RNG" none⟩,
      ⟨"DES", .conflictingExclusion "AES" (some "pick one")⟩,
      ⟨"ROUNDS", .outOfRangeParameter 20 1 8 none⟩], 3, 3⟩
    (Tables.build "sample" sampleCapabilities sampleRules).result = .ok sampleTables ∧
      (sampleTables.validate selection).result = .ok verdict ∧
      ∃ s problems broken reported,
        (sampleTables.normalize selection).result = .ok (s, problems) ∧
        Complaints sampleCatalog selection problems ∧
        verdict.violations = problems ++ reported ∧
        Listed sampleCatalog sampleRules s broken reported ∧
        sampleTables.rules.rules = (keptAt sampleRules).map (·.1) ∧
        sampleTables.rules.evaluated.Perm sampleTables.rules.rules ∧
        verdict.checkedRules = sampleTables.rules.rules.length ∧
        verdict.checkedRules = sampleTables.rules.evaluated.length :=
  ⟨build_sample, rfl, Tables.listed_of_validate build_sample rfl⟩

end FeatureCert
