import FeatureCert.Proofs.Lookup
import FeatureCert.Tables

/-!
Declared rules and the rules that are kept of them. An exclusion is dropped where an earlier one names the
same pair, so the kept rules stand for all that were declared; each of them is sound over its catalog.
-/
namespace FeatureCert

namespace Rule

variable {catalog : Catalog} {r s t : Rule}

/-- What the building of a rule set checks of one rule. -/
structure Sound (catalog : Catalog) (r : Rule) : Prop where
  known : ∀ name ∈ r.identifiers, name ∈ catalog.identifiers
  irreflexive : r.subject ∉ r.objects
  range : ∀ minimum maximum, r.constraint = .range minimum maximum →
    ∃ c ∈ catalog.capabilities, c.name = r.subject ∧ c.kind = .parameter ∧
      minimum ≤ maximum ∧ minimum ≤ c.default.toInt ∧ c.default.toInt ≤ maximum

/-- A range is sound if it is about a parameter, is not empty and holds the default. -/
theorem rangeFault?_eq_none_iff {c : Capability} {minimum maximum : Int} :
    rangeFault? c minimum maximum = none ↔
      c.kind = .parameter ∧ minimum ≤ maximum ∧
        minimum ≤ c.default.toInt ∧ c.default.toInt ≤ maximum := by
  unfold rangeFault?
  by_cases hk : c.kind = .parameter
  · by_cases hle : maximum < minimum
    · have hnot : ¬ minimum ≤ maximum := by omega
      simp [hk, hle, hnot]
    · have hle' : minimum ≤ maximum := by omega
      simp [hk, hle, hle']
  · simp [hk]

theorem unknown_eq_none_iff :
    r.identifiers.find? (!catalog.contains ·) = none ↔
      ∀ name ∈ r.identifiers, name ∈ catalog.identifiers := by
  simp [List.find?_eq_none, Catalog.contains_eq_true_iff]

/-- A rule without a fault is exactly a sound one. -/
theorem fault?_eq_none_iff : r.fault? catalog = none ↔ r.Sound catalog := by
  unfold fault?
  cases hfind : r.identifiers.find? (!catalog.contains ·) with
  | some name =>
    simp only [reduceCtorEq, false_iff]
    intro h
    rw [unknown_eq_none_iff.2 h.known] at hfind
    cases hfind
  | none =>
    have hknown := unknown_eq_none_iff.1 hfind
    by_cases hself : r.subject ∈ r.objects
    · simp only [List.contains_iff_mem, hself, if_true, reduceCtorEq, false_iff]
      exact fun h => h.irreflexive hself
    · simp only [List.contains_iff_mem, hself, if_false]
      obtain ⟨c, hc, hname⟩ := Catalog.mem_identifiers.1 (hknown r.subject List.mem_cons_self)
      have hlook : catalog.lookup? r.subject = some c := Catalog.lookup?_eq_some_iff.2 ⟨hc, hname⟩
      rw [hlook]
      cases hr : r.constraint with
      | range minimum maximum =>
        simp only [rangeFault?_eq_none_iff]
        constructor
        · intro h
          refine ⟨hknown, hself, ?_⟩
          intro low high he
          rw [hr] at he
          cases he
          exact ⟨c, hc, hname, h⟩
        · intro h
          obtain ⟨d, hd, hdname, hd'⟩ := h.range minimum maximum hr
          have hsame : catalog.lookup? r.subject = some d :=
            Catalog.lookup?_eq_some_iff.2 ⟨hd, hdname⟩
          rw [hlook] at hsame
          cases hsame
          exact hd'
      | _ => exact iff_of_true rfl ⟨hknown, hself, fun _ _ he => by rw [hr] at he; cases he⟩

/-- The parameter of a sound range belongs to a flag. -/
theorem Sound.exists_owned (h : r.Sound catalog) {minimum maximum : Int}
    (hr : r.constraint = .range minimum maximum) :
    ∃ c ∈ catalog.capabilities, c.name = r.subject ∧ c.kind = .parameter ∧
      ∃ owner ∈ catalog.capabilities, c.owner = some owner.name ∧ owner.kind = .flag := by
  obtain ⟨c, hc, hname, hk, _⟩ := h.range minimum maximum hr
  exact ⟨c, hc, hname, hk, Catalog.exists_owner hc (by rw [hk]; decide)⟩

theorem samePair_iff {p q : String × String} :
    samePair p q = true ↔ p = q ∨ (p.1 = q.2 ∧ p.2 = q.1) := by
  simp [samePair]

/-- Being the same pair is transitive, so that a repeat of a repeat is one of the first. -/
theorem samePair_trans {p q u : String × String} (h : samePair p q = true)
    (h' : samePair q u = true) : samePair p u = true := by
  rw [samePair_iff] at *
  rcases h with rfl | ⟨h₁, h₂⟩
  · exact h'
  · rcases h' with rfl | ⟨h₃, h₄⟩
    · exact .inr ⟨h₁, h₂⟩
    · exact .inl (Prod.ext (h₁.trans h₄) (h₂.trans h₃))

/-- Two rules repeat each other exactly when both exclude, and the same pair. -/
theorem repeatsExclusion_iff :
    r.repeatsExclusion s = true ↔
      ∃ p q, r.exclusion? = some p ∧ s.exclusion? = some q ∧ samePair p q = true := by
  unfold repeatsExclusion
  cases r.exclusion? <;> cases s.exclusion? <;> simp

theorem repeatsExclusion_trans (h : r.repeatsExclusion s = true)
    (h' : s.repeatsExclusion t = true) : r.repeatsExclusion t = true := by
  rw [repeatsExclusion_iff] at *
  obtain ⟨p, q, hp, hq, hpq⟩ := h
  obtain ⟨q', u, hq', hu, hqu⟩ := h'
  rw [hq] at hq'
  cases hq'
  exact ⟨p, u, hp, hu, samePair_trans hpq hqu⟩

end Rule

/-- Declared rules with their positions, without the exclusions that repeat an earlier one. -/
def keptAt (declared : List Rule) : List (Rule × Nat) :=
  declared.zipIdx.filter fun p => !(declared.take p.2).any p.1.repeatsExclusion

/-- Whatever repeats a dropped rule repeats a kept one as well. -/
theorem any_repeats_of_dropped {kept before : List Rule} {r : Rule}
    (h : ∀ q : Rule, kept.any q.repeatsExclusion = before.any q.repeatsExclusion)
    (hr : kept.any r.repeatsExclusion = true) (q : Rule) :
    kept.any q.repeatsExclusion = (before ++ [r]).any q.repeatsExclusion := by
  rw [List.any_append, ← h q, List.any_cons, List.any_nil, Bool.or_false, Bool.eq_iff_iff,
    Bool.or_eq_true]
  constructor
  · exact .inl
  · rintro (hq | hq)
    · exact hq
    · obtain ⟨k, hk, hrk⟩ := List.any_eq_true.1 hr
      exact List.any_eq_true.2 ⟨k, hk, Rule.repeatsExclusion_trans hq hrk⟩

/-- Instead of the kept rules all earlier ones may be asked for a repetition. -/
theorem dropRepeats_eq_filter (kept before rest : List Rule)
    (h : ∀ q : Rule, kept.any q.repeatsExclusion = before.any q.repeatsExclusion) :
    dropRepeats kept rest = ((rest.zipIdx before.length).filter fun p =>
      !((before ++ rest).take p.2).any p.1.repeatsExclusion).map (·.1) := by
  induction rest generalizing kept before with
  | nil => simp [dropRepeats]
  | cons r rest ih =>
    have hsplit : before ++ r :: rest = (before ++ [r]) ++ rest := by simp
    have hlength : before.length + 1 = (before ++ [r]).length := by simp
    have hhead : (before ++ r :: rest).take before.length = before := by simp
    rw [List.zipIdx_cons, List.filter_cons, hhead, ← h r, dropRepeats]
    cases hr : kept.any r.repeatsExclusion with
    | true =>
      simp only [if_true, Bool.not_true, Bool.false_eq_true, if_false]
      rw [ih _ _ (any_repeats_of_dropped h hr), hsplit, hlength]
    | false =>
      have hsame : ∀ q : Rule,
          (kept ++ [r]).any q.repeatsExclusion = (before ++ [r]).any q.repeatsExclusion := by
        intro q
        rw [List.any_append, List.any_append, h q]
      simp only [Bool.false_eq_true, if_false, Bool.not_false, if_true, List.map_cons]
      rw [ih _ _ hsame, hsplit, hlength]

theorem dropRepeats_eq_keptAt (declared : List Rule) :
    dropRepeats [] declared = (keptAt declared).map (·.1) := by
  simpa [keptAt] using dropRepeats_eq_filter [] [] declared (by simp)

/-- A declared rule is kept, or a kept one excludes the same pair. -/
theorem mem_or_repeats_of_mem {kept rules : List Rule} {r : Rule} (h : r ∈ rules) :
    r ∈ dropRepeats kept rules ∨
      ∃ k ∈ kept ++ dropRepeats kept rules, r.repeatsExclusion k = true := by
  induction rules generalizing kept with
  | nil => simp at h
  | cons s rest ih =>
    unfold dropRepeats
    cases hs : kept.any s.repeatsExclusion with
    | true =>
      simp only [if_true]
      rcases List.mem_cons.1 h with rfl | h
      · obtain ⟨k, hk, hrk⟩ := List.any_eq_true.1 hs
        exact .inr ⟨k, List.mem_append_left _ hk, hrk⟩
      · exact ih h
    | false =>
      simp only [Bool.false_eq_true, if_false]
      rcases List.mem_cons.1 h with rfl | h
      · exact .inl List.mem_cons_self
      · rcases @ih (kept ++ [s]) h with hmem | ⟨k, hk, hrk⟩
        · exact .inl (List.mem_cons_of_mem _ hmem)
        · exact .inr ⟨k, by simpa using hk, hrk⟩

namespace RuleSet

variable {catalog : Catalog} {rules : RuleSet catalog} {declared : List Rule} {r : Rule}

theorem sound_of_mem (h : r ∈ rules.rules) : r.Sound catalog :=
  Rule.fault?_eq_none_iff.1 (rules.sound r h)

/-- Names in kept rules are names of capabilities, and so identifiers where these are. -/
theorem isValid_of_mem (hnames : ∀ c ∈ catalog.capabilities, Identifier.isValid c.name.toList = true)
    (hr : r ∈ rules.rules) : ∀ name ∈ r.identifiers, Identifier.isValid name.toList = true := by
  intro name hname
  obtain ⟨c, hc, rfl⟩ := Catalog.mem_identifiers.1 ((sound_of_mem hr).known name hname)
  exact hnames c hc

/-- Accepted rules are all sound, and the rule set keeps them without repetitions. -/
theorem build_ok (h : RuleSet.build catalog declared = .ok rules) :
    rules.rules = dropRepeats [] declared ∧ ∀ r ∈ declared, r.Sound catalog := by
  unfold RuleSet.build at h
  split at h
  · cases h
  · next hfault =>
    cases h
    exact ⟨rfl, fun r hr =>
      Rule.fault?_eq_none_iff.1 (fault?_eq_none_of_firstRuleFault? hfault r hr)⟩

end RuleSet

theorem Catalog.build_ok {id : String} {capabilities : List Capability} {catalog : Catalog}
    (h : Catalog.build id capabilities = .ok catalog) :
    catalog.id = id ∧ catalog.capabilities = capabilities := by
  unfold Catalog.build at h
  split at h
  · cases h
  · split at h
    · cases h
    · cases h
      exact ⟨rfl, rfl⟩

end FeatureCert
