import FeatureCert.Proofs.Order
import Mathlib.Data.List.Induction

/-!
Queries on a rule set. Each of them tells what the kept rules say of a name: which mention it, which are about
it, what it depends on and what depends on it. Dependencies are told from their subjects by one index and from
their objects by the other, and both tell the same edges.
-/
namespace FeatureCert

/-- The names of a list, each only where it first appears. -/
structure FirstAppearances (names firsts : List String) : Prop where
  mem_iff : ∀ name, name ∈ firsts ↔ name ∈ names
  nodup : firsts.Nodup
  ordered : firsts.Pairwise fun a b => names.idxOf a < names.idxOf b

/-- A name is added at the end only where it is new. -/
theorem distinctNames_concat (names : List String) (name : String) :
    distinctNames (names ++ [name]) =
      if name ∈ names then distinctNames names else distinctNames names ++ [name] := by
  rw [distinctNames, List.foldl_append]
  change (if (distinctNames names).contains name then distinctNames names
    else distinctNames names ++ [name]) = _
  simp only [List.contains_iff_mem, mem_distinctNames]

/-- A name that is new stands behind all that have appeared. -/
theorem pairwise_distinctNames (names : List String) :
    (distinctNames names).Pairwise fun a b => names.idxOf a < names.idxOf b := by
  induction names using List.reverseRecOn with
  | nil => exact .nil
  | append_singleton names name ih =>
    have hseen : ∀ a ∈ distinctNames names, (names ++ [name]).idxOf a = names.idxOf a :=
      fun a ha => List.idxOf_append_of_mem (mem_distinctNames.1 ha)
    have hold : (distinctNames names).Pairwise fun a b =>
        (names ++ [name]).idxOf a < (names ++ [name]).idxOf b := by
      apply ih.imp_of_mem
      intro a b ha hb hlt
      rwa [hseen a ha, hseen b hb]
    rw [distinctNames_concat]
    by_cases hname : name ∈ names
    · rwa [if_pos hname]
    · rw [if_neg hname, List.pairwise_append]
      refine ⟨hold, List.pairwise_singleton _ _, ?_⟩
      intro a ha b hb
      rw [List.mem_singleton.1 hb, hseen a ha, List.idxOf_append_of_notMem hname]
      exact Nat.lt_of_lt_of_le (List.idxOf_lt_length_of_mem (mem_distinctNames.1 ha)) (Nat.le_add_right _ _)

theorem firstAppearances_distinctNames (names : List String) :
    FirstAppearances names (distinctNames names) :=
  ⟨fun _ => mem_distinctNames, nodup_distinctNames names, pairwise_distinctNames names⟩

/-- A rule makes its subject depend on its objects. -/
def Rule.IsDependency (r : Rule) : Prop := r.kind = .requires ∨ r.kind = .requiresAny

instance (r : Rule) : Decidable r.IsDependency := inferInstanceAs (Decidable (_ ∨ _))

theorem Rule.isDependency_iff {r : Rule} : r.constraint.isDependency = true ↔ r.IsDependency := by
  obtain ⟨_, _, constraint⟩ := r
  cases constraint <;> simp [IsDependency, kind, Constraint.kind, Constraint.isDependency]

namespace RuleSet

variable {catalog : Catalog} {rules : RuleSet catalog} {declared : List Rule} {a b : String}

/-- Dependencies are gathered from the kept rules in order, each where it first appears. -/
theorem dependenciesOf_eq (rules : RuleSet catalog) (name : String) :
    rules.dependenciesOf name = distinctNames
      ((rules.rules.filter fun r => r.IsDependency ∧ r.subject = name).flatMap (·.objects)) := by
  rw [dependenciesOf, withSubject_eq_filter, List.filter_filter]
  congr 2
  apply List.filter_congr
  intro r _
  rw [Bool.eq_iff_iff, Bool.and_eq_true, Rule.isDependency_iff, beq_iff_eq, decide_eq_true_eq]

/-- A rule that has a name among its objects mentions it, so that the index of mentions misses none. -/
theorem dependentsOf_eq (rules : RuleSet catalog) (name : String) :
    rules.dependentsOf name = distinctNames
      ((rules.rules.filter fun r => r.IsDependency ∧ name ∈ r.objects).map (·.subject)) := by
  rw [dependentsOf, mentioning_eq_filter, List.filter_filter]
  congr 2
  apply List.filter_congr
  intro r _
  rw [Bool.eq_iff_iff, Bool.and_eq_true, Bool.and_eq_true, Rule.isDependency_iff, List.contains_iff_mem,
    List.contains_iff_mem, decide_eq_true_eq]
  exact and_iff_left_of_imp fun h => List.mem_cons_of_mem _ h.2

theorem mem_dependenciesOf :
    b ∈ rules.dependenciesOf a ↔ ∃ r ∈ rules.rules, r.IsDependency ∧ r.subject = a ∧ b ∈ r.objects := by
  simp only [dependenciesOf_eq, mem_distinctNames, List.mem_flatMap, List.mem_filter, decide_eq_true_eq,
    and_assoc]

/-- The two directions of dependency are the converse of each other. -/
theorem mem_dependenciesOf_iff_dependentsOf : b ∈ rules.dependenciesOf a ↔ a ∈ rules.dependentsOf b := by
  simp only [mem_dependenciesOf, dependentsOf_eq, mem_distinctNames, List.mem_map, List.mem_filter,
    decide_eq_true_eq]
  refine exists_congr fun r => ?_
  constructor
  · rintro ⟨hr, hdependency, hsubject, hobject⟩
    exact ⟨⟨hr, hdependency, hobject⟩, hsubject⟩
  · rintro ⟨⟨hr, hdependency, hobject⟩, hsubject⟩
    exact ⟨hr, hdependency, hsubject, hobject⟩

/-- What a rule set answers, as the list of its kept rules has it. -/
structure Answers (declared : List Rule) (rules : RuleSet catalog) : Prop where
  kept : rules.rules = (keptAt declared).map (·.1)
  mentioning : ∀ name, rules.mentioning name = rules.rules.filter (name ∈ ·.identifiers)
  withSubject : ∀ name, rules.withSubject name = rules.rules.filter (·.subject = name)
  dependencies : ∀ name, FirstAppearances
    ((rules.rules.filter fun r => r.IsDependency ∧ r.subject = name).flatMap (·.objects))
    (rules.dependenciesOf name)
  dependents : ∀ name, FirstAppearances
    ((rules.rules.filter fun r => r.IsDependency ∧ name ∈ r.objects).map (·.subject))
    (rules.dependentsOf name)
  converse : ∀ a b, b ∈ rules.dependenciesOf a ↔ a ∈ rules.dependentsOf b
  edge : ∀ a b, b ∈ rules.dependenciesOf a ↔
    ∃ r ∈ rules.rules, r.IsDependency ∧ r.subject = a ∧ b ∈ r.objects

/-- Whatever rules are declared, the queries answer for those that are kept. -/
theorem answers_of_build (h : RuleSet.build catalog declared = .ok rules) : rules.Answers declared := by
  constructor
  case kept => exact rules_eq_keptAt h
  case mentioning => simpa using rules.mentioning_eq_filter
  case withSubject => exact rules.withSubject_eq_filter
  case dependencies =>
    intro name
    rw [dependenciesOf_eq]
    exact firstAppearances_distinctNames _
  case dependents =>
    intro name
    rw [dependentsOf_eq]
    exact firstAppearances_distinctNames _
  case converse => exact fun _ _ => mem_dependenciesOf_iff_dependentsOf
  case edge => exact fun _ _ => mem_dependenciesOf

/-- A group that names a target twice, two rules for one edge, and an exclusion that is declared twice. -/
def linkedRules : List Rule := [
  { subject := "AES", constraint := .requiresAny ["RNG", "DES", "RNG"] },
  { subject := "DES", constraint := .requires "RNG" },
  { subject := "AES", constraint := .requires "RNG" },
  { subject := "ROUNDS", constraint := .excludes "DES" },
  { subject := "DES", constraint := .excludes "ROUNDS" }]

/-- Each edge is told once from either end, and each rule once under each of its names. -/
theorem answers_of_linked :
    ∃ rules, RuleSet.build sampleCatalog linkedRules = .ok rules ∧ rules.Answers linkedRules ∧
      rules.dependenciesOf "AES" = ["RNG", "DES"] ∧ rules.dependentsOf "RNG" = ["AES", "DES"] ∧
      (rules.mentioning "RNG").length = 3 ∧ (rules.mentioning "ROUNDS").length = 1 :=
  ⟨_, rfl, answers_of_build rfl, rfl, rfl, rfl, rfl⟩

end RuleSet
end FeatureCert
