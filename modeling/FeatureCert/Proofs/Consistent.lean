import FeatureCert.Document.Catalog
import FeatureCert.Proofs.Tables

/-!
Which declarations have tables. The checks of the two builds together come to one condition on the declared
capabilities and rules; a declaration that breaks it is refused with a defect, whose wording exists unless
one of its numbers is over the digit limit.
-/
namespace FeatureCert

open FeatureCert.Numeral FeatureCert.Document

/-- Names that differ pass the search, which is what the building of a catalog asks for. -/
theorem firstRepeat?_go_of_nodup {names : List String} {seen : List (String × Nat)} {position : Nat}
    (h : names.Nodup) (hseen : ∀ name ∈ names, ∀ s ∈ seen, s.1 ≠ name) :
    firstRepeat?.go seen position names = none := by
  induction names generalizing seen position with
  | nil => rfl
  | cons name rest ih =>
    rw [List.nodup_cons] at h
    have hnew : seen.find? (·.1 == name) = none := by
      simpa using hseen name List.mem_cons_self
    unfold firstRepeat?.go
    rw [hnew]
    apply ih h.2
    intro other hother s hs
    rcases List.mem_append.1 hs with hs | hs
    · exact hseen other (List.mem_cons_of_mem _ hother) s hs
    · rw [List.mem_singleton] at hs
      subst hs
      rintro rfl
      exact h.1 hother

theorem firstRepeat?_eq_none_iff {names : List String} : firstRepeat? names = none ↔ names.Nodup :=
  ⟨nodup_of_firstRepeat?_eq_none, fun h => firstRepeat?_go_of_nodup h (by simp)⟩

/-- What the building of a rule set checks of one rule, told of the declared capabilities. -/
structure Rule.SoundOver (capabilities : List Capability) (r : Rule) : Prop where
  known : ∀ name ∈ r.identifiers, ∃ c ∈ capabilities, c.name = name
  irreflexive : r.subject ∉ r.objects
  range : ∀ minimum maximum, r.constraint = .range minimum maximum →
    ∃ c ∈ capabilities, c.name = r.subject ∧ c.kind = .parameter ∧
      minimum ≤ maximum ∧ minimum ≤ c.default.toInt ∧ c.default.toInt ≤ maximum

/-- Whether a rule is sound depends on the declared capabilities alone, not on how the catalog files them. -/
theorem Rule.sound_iff_soundOver {catalog : Catalog} {r : Rule} :
    r.Sound catalog ↔ r.SoundOver catalog.capabilities := by
  constructor
  · intro h
    exact ⟨fun name hname => Catalog.mem_identifiers.1 (h.known name hname), h.irreflexive, h.range⟩
  · intro h
    exact ⟨fun name hname => Catalog.mem_identifiers.2 (h.known name hname), h.irreflexive, h.range⟩

/-- Declarations that tables can be built of. -/
structure Consistent (capabilities : List Capability) (declared : List Rule) : Prop where
  distinct : (capabilities.map (·.name)).Nodup
  capability : ∀ c ∈ capabilities, c.Sound capabilities
  rule : ∀ r ∈ declared, r.SoundOver capabilities

section Build

variable {id : String} {capabilities : List Capability} {declared : List Rule} {catalog : Catalog}
  {defect : CatalogDefect}

theorem firstFault?_eq_none_iff :
    firstFault? capabilities = none ↔ ∀ c ∈ capabilities, c.fault? capabilities = none := by
  simp [firstFault?, List.findSome?_eq_none_iff]

theorem firstRuleFault?_eq_none_iff :
    firstRuleFault? catalog declared = none ↔ ∀ r ∈ declared, r.fault? catalog = none := by
  refine ⟨fault?_eq_none_of_firstRuleFault?, fun h => ?_⟩
  rw [firstRuleFault?, List.findSome?_eq_none_iff]
  rintro ⟨r, position⟩ hmem
  simpa using h r (List.fst_mem_of_mem_zipIdx hmem)

/-- A catalog can be built exactly where its names differ and each capability is sound among all of them. -/
theorem Catalog.exists_build_iff :
    (∃ catalog, Catalog.build id capabilities = .ok catalog) ↔
      (capabilities.map (·.name)).Nodup ∧ ∀ c ∈ capabilities, c.Sound capabilities := by
  unfold Catalog.build
  split
  · next hrepeat =>
    refine iff_of_false (by simp) fun h => ?_
    rw [firstRepeat?_eq_none_iff.2 h.1] at hrepeat
    cases hrepeat
  · next hrepeat =>
    have hdistinct := firstRepeat?_eq_none_iff.1 hrepeat
    have hsound : firstFault? capabilities = none ↔ ∀ c ∈ capabilities, c.Sound capabilities := by
      simp only [firstFault?_eq_none_iff, Capability.fault?_eq_none_iff hdistinct]
    split
    · next hfault =>
      refine iff_of_false (by simp) fun h => ?_
      rw [hsound.2 h.2] at hfault
      cases hfault
    · next hfault => exact iff_of_true ⟨_, rfl⟩ ⟨hdistinct, hsound.1 hfault⟩

/-- A rule set can be built exactly where each rule is sound; repeated exclusions are no fault. -/
theorem RuleSet.exists_build_iff :
    (∃ rules, RuleSet.build catalog declared = .ok rules) ↔ ∀ r ∈ declared, r.Sound catalog := by
  have hsound : firstRuleFault? catalog declared = none ↔ ∀ r ∈ declared, r.Sound catalog := by
    simp only [firstRuleFault?_eq_none_iff, Rule.fault?_eq_none_iff]
  unfold RuleSet.build
  split
  · next hfault =>
    refine iff_of_false (by simp) fun h => ?_
    rw [hsound.2 h] at hfault
    cases hfault
  · next hfault => exact iff_of_true ⟨_, rfl⟩ (hsound.1 hfault)

/-- The two builds together accept exactly the consistent declarations. -/
theorem Tables.exists_build_iff :
    (∃ tables, (Tables.build id capabilities declared).result = .ok tables) ↔
      Consistent capabilities declared := by
  constructor
  · rintro ⟨tables, h⟩
    obtain ⟨hcatalog, hrules⟩ := build_ok h
    obtain ⟨hdistinct, hcapabilities⟩ := Catalog.exists_build_iff.1 ⟨_, hcatalog⟩
    have hsound := RuleSet.exists_build_iff.1 ⟨_, hrules⟩
    have hsame := (Catalog.build_ok hcatalog).2
    refine ⟨hdistinct, hcapabilities, fun r hr => ?_⟩
    exact hsame ▸ Rule.sound_iff_soundOver.1 (hsound r hr)
  · intro h
    obtain ⟨catalog, hcatalog⟩ :=
      (@Catalog.exists_build_iff id capabilities).2 ⟨h.distinct, h.capability⟩
    obtain ⟨_, hsame⟩ := Catalog.build_ok hcatalog
    have hsound : ∀ r ∈ declared, r.Sound catalog := by
      intro r hr
      rw [Rule.sound_iff_soundOver, hsame]
      exact h.rule r hr
    obtain ⟨rules, hrules⟩ := RuleSet.exists_build_iff.2 hsound
    exact ⟨⟨catalog, rules⟩, result_build_of_ok hcatalog hrules⟩

end Build

def Default.numbers : Default → List Int
  | .switch _ => []
  | .number n => [n]

def Constraint.numbers : Constraint → List Int
  | .range minimum maximum => [minimum, maximum]
  | _ => []

section Wording

variable {id : String} {capabilities : List Capability} {declared : List Rule} {catalog : Catalog}
  {c : Capability} {r : Rule} {minimum maximum : Int} {defect : CatalogDefect}

theorem Capability.default_of_needsSwitch {n : Int}
    (h : c.fault? capabilities = some (.needsSwitch n)) : c.default = .number n := by
  rw [fault?, Option.orElse_eq_orElse, Option.orElse_eq_or, Option.or_eq_some_iff] at h
  rcases h with h | ⟨_, h⟩
  · unfold defaultFault? at h
    split at h
    · cases h
    · cases h
    · cases h
    · next hdefault _ =>
      cases h
      exact hdefault
  · unfold ownerFault? at h
    split at h
    · split at h <;> cases h
    · split at h
      · cases h
      · split at h
        · cases h
        · split at h <;> cases h

theorem Default.exists_text {d : Default} (h : ∀ n ∈ d.numbers, Writable n) :
    ∃ text, d.text = .ok text := by
  cases d with
  | switch on => exact ⟨_, rfl⟩
  | number n => exact ⟨_, decimal_of_writable (h n List.mem_cons_self)⟩

/-- The fault of a capability has a wording where its default has a text. -/
theorem CapabilityFault.exists_message {fault : CapabilityFault}
    (hfault : c.fault? capabilities = some fault) (h : ∀ n ∈ c.default.numbers, Writable n) :
    ∃ text, fault.message c = .ok text := by
  cases fault with
  | needsSwitch n =>
    rw [Capability.default_of_needsSwitch hfault] at h
    have hn := decimal_of_writable (h n List.mem_cons_self)
    exact ⟨_, by rw [message, hn]; rfl⟩
  | _ => exact ⟨_, rfl⟩

/-- The fault of a range quotes bounds and default, which are all that its wording needs. -/
theorem RuleFault.exists_message_range {fault : RuleFault} (position : Nat)
    (hfault : Rule.rangeFault? c minimum maximum = some fault)
    (hdefault : ∀ n ∈ c.default.numbers, Writable n) (hminimum : Writable minimum)
    (hmaximum : Writable maximum) : ∃ text, fault.message position r = .ok text := by
  have hlow := decimal_of_writable hminimum
  have hhigh := decimal_of_writable hmaximum
  obtain ⟨text, htext⟩ := Default.exists_text hdefault
  unfold Rule.rangeFault? at hfault
  split at hfault
  · cases hfault
    exact ⟨_, rfl⟩
  · split at hfault
    · cases hfault
      exact ⟨_, by rw [message, hlow, hhigh]; rfl⟩
    · split at hfault
      · cases hfault
      · cases hfault
        exact ⟨_, by rw [message, htext, hlow, hhigh]; rfl⟩

/-- The fault of a rule has a wording where the bounds have texts, and the defaults too. -/
theorem RuleFault.exists_message {fault : RuleFault} (position : Nat)
    (hfault : r.fault? catalog = some fault)
    (hdefault : ∀ c ∈ catalog.capabilities, ∀ n ∈ c.default.numbers, Writable n)
    (hbounds : ∀ n ∈ r.constraint.numbers, Writable n) :
    ∃ text, fault.message position r = .ok text := by
  unfold Rule.fault? at hfault
  split at hfault
  · cases hfault
    exact ⟨_, rfl⟩
  · split at hfault
    · cases hfault
      exact ⟨_, rfl⟩
    · split at hfault
      · next minimum maximum c hconstraint hlook =>
        rw [hconstraint] at hbounds
        have hc := (Catalog.lookup?_eq_some_iff.1 hlook).1
        exact exists_message_range position hfault (hdefault c hc)
          (hbounds minimum (by simp [Constraint.numbers]))
          (hbounds maximum (by simp [Constraint.numbers]))
      · cases hfault

theorem mem_of_firstFault? {c : Capability} {fault : CapabilityFault}
    (h : firstFault? capabilities = some (c, fault)) :
    c ∈ capabilities ∧ c.fault? capabilities = some fault := by
  obtain ⟨d, hd, hmap⟩ := List.exists_of_findSome?_eq_some h
  obtain ⟨_, hown, he⟩ := Option.map_eq_some_iff.1 hmap
  cases he
  exact ⟨hd, hown⟩

theorem mem_of_firstRuleFault? {position : Nat} {r : Rule} {fault : RuleFault}
    (h : firstRuleFault? catalog declared = some (position, r, fault)) :
    r ∈ declared ∧ r.fault? catalog = some fault := by
  unfold firstRuleFault? at h
  obtain ⟨⟨q, i⟩, hq, hmap⟩ := List.exists_of_findSome?_eq_some h
  obtain ⟨_, hown, he⟩ := Option.map_eq_some_iff.1 hmap
  cases he
  exact ⟨List.fst_mem_of_mem_zipIdx hq, hown⟩

/-- A list of capabilities is refused with a defect that can be worded where the defaults have texts. -/
theorem Catalog.exists_message_of_error (h : Catalog.build id capabilities = .error defect)
    (hdefault : ∀ c ∈ capabilities, ∀ n ∈ c.default.numbers, Writable n) :
    ∃ text, defect.message = .ok text := by
  unfold Catalog.build at h
  split at h
  · cases h
    exact ⟨_, rfl⟩
  · split at h
    · next c fault hfault =>
      cases h
      obtain ⟨hc, hown⟩ := mem_of_firstFault? hfault
      exact CapabilityFault.exists_message hown (hdefault c hc)
    · cases h

/-- A defect of rules can be worded where every default and bound has a text. -/
theorem RuleSet.exists_message_of_error (h : RuleSet.build catalog declared = .error defect)
    (hdefault : ∀ c ∈ catalog.capabilities, ∀ n ∈ c.default.numbers, Writable n)
    (hbounds : ∀ r ∈ declared, ∀ n ∈ r.constraint.numbers, Writable n) :
    ∃ text, defect.message = .ok text := by
  unfold RuleSet.build at h
  split at h
  · next position r fault hfault =>
    cases h
    obtain ⟨hr, hown⟩ := mem_of_firstRuleFault? hfault
    exact RuleFault.exists_message position hown hdefault (hbounds r hr)
  · cases h

/-- What is refused is refused with a defect of the capabilities, or of the rules. -/
theorem Tables.build_error {failure : Failure}
    (h : (Tables.build id capabilities declared).result = .error failure) :
    ∃ defect, failure = .ofDefect defect ∧
      (Catalog.build id capabilities = .error defect ∨
        ∃ catalog, Catalog.build id capabilities = .ok catalog ∧
          RuleSet.build catalog declared = .error defect) := by
  rw [result_build] at h
  cases hcatalog : Catalog.build id capabilities with
  | error defect =>
    rw [hcatalog] at h
    cases h
    exact ⟨defect, rfl, .inl rfl⟩
  | ok catalog =>
    rw [hcatalog] at h
    change (Tables.mk catalog <$> RuleSet.build catalog declared).mapError Failure.ofDefect = _ at h
    cases hrules : RuleSet.build catalog declared with
    | error defect =>
      rw [hrules] at h
      cases h
      exact ⟨defect, rfl, .inr ⟨catalog, rfl, hrules⟩⟩
    | ok rules =>
      rw [hrules] at h
      cases h

theorem Failure.ofDefect_of_message {defect : CatalogDefect} {text : String}
    (h : defect.message = .ok text) : ofDefect defect = .defect defect := by
  rw [ofDefect, h]

end Wording

/-- The numbers among defaults and bounds, which are all that a wording may have to write out. -/
def Document.CatalogDocument.numbers (document : CatalogDocument) : List Int :=
  document.capabilities.flatMap (·.default.numbers) ++
    document.rules.flatMap (·.constraint.numbers)

/-- Tables are built of exactly the consistent documents. Any other is refused, by a defect with a wording
unless a number of the document is over the digit limit. -/
theorem Tables.built_iff_consistent (document : CatalogDocument) :
    let outcome := (build document.catalogId document.capabilities document.rules).result
    ((∃ tables, outcome = .ok tables) ↔ Consistent document.capabilities document.rules) ∧
      (¬ Consistent document.capabilities document.rules →
        ∃ failure, outcome = .error failure ∧
          ((∀ n ∈ document.numbers, Writable n) →
            ∃ defect text, failure = .defect defect ∧ defect.message = .ok text)) := by
  intro outcome
  refine ⟨exists_build_iff, fun hnot => ?_⟩
  cases h : outcome with
  | ok tables => exact absurd (exists_build_iff.1 ⟨tables, h⟩) hnot
  | error failure =>
    refine ⟨failure, rfl, fun hnumbers => ?_⟩
    rw [Document.CatalogDocument.numbers, List.forall_mem_append, List.forall_mem_flatMap,
      List.forall_mem_flatMap] at hnumbers
    obtain ⟨defect, rfl, hbuild⟩ := build_error h
    have hmessage : ∃ text, defect.message = .ok text := by
      rcases hbuild with hcatalog | ⟨catalog, hcatalog, hrules⟩
      · exact Catalog.exists_message_of_error hcatalog hnumbers.1
      · have hsame := (Catalog.build_ok hcatalog).2
        exact RuleSet.exists_message_of_error hrules (hsame ▸ hnumbers.1) hnumbers.2
    obtain ⟨text, htext⟩ := hmessage
    exact ⟨defect, text, Failure.ofDefect_of_message htext, htext⟩

/-- A default below the range of its own parameter is found, although all else in the document fits. -/
theorem refused_of_default_below :
    let document : CatalogDocument := ⟨"0.1.0", "sample", sampleCapabilities,
      ⟨"ROUNDS", none, .range 5 8⟩ :: sampleRules, none⟩
    ¬ Consistent document.capabilities document.rules ∧
      (∀ n ∈ document.numbers, Writable n) ∧
      ∃ failure, (Tables.build document.catalogId document.capabilities document.rules).result =
          .error failure ∧
        ∃ defect text, failure = .defect defect ∧ defect.message = .ok text := by
  intro document
  obtain ⟨hiff, hrefused⟩ := Tables.built_iff_consistent document
  have hnumbers : ∀ n ∈ document.numbers, Writable n := by decide +kernel
  have hnot : ¬ Consistent document.capabilities document.rules := by
    intro h
    obtain ⟨tables, htables⟩ := hiff.2 h
    cases htables
  obtain ⟨failure, herror, hdefect⟩ := hrefused hnot
  exact ⟨hnot, hnumbers, failure, herror, hdefect hnumbers⟩

end FeatureCert
