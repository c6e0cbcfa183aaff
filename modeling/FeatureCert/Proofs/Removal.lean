import FeatureCert.Proofs.Locality
import FeatureCert.Proofs.Tabulated
import Mathlib.Logic.Function.Basic

/-!
Removal of a capability. One more entry that turns a capability off changes the normal form at that
capability alone. A rule that held goes on holding, unless its subject is on and depends on what was turned
off; so whatever nothing that is on depends on can be removed from a certified selection.
-/
namespace FeatureCert

namespace Catalog

variable {catalog : Catalog} {c d : Capability} {i k : Intake} {selection : List Entry} {e : Entry}
  {problems : List Violation} {state : Capability → State} {v : Value} {new : State} {name : String}

/-- One more entry is judged by itself and added at the end. -/
theorem takeIn_concat {judgement : Judgement} (h : catalog.takeIn i selection = .ok k)
    (hj : catalog.judge e = .ok judgement) :
    catalog.takeIn i (selection ++ [e]) = .ok (k.add judgement) := by
  induction selection generalizing i with
  | nil =>
    cases h
    exact bind_eq_ok_iff.2 ⟨judgement, hj, rfl⟩
  | cons first rest ih =>
    obtain ⟨before, hfirst, hrest⟩ := bind_eq_ok_iff.1 h
    exact bind_eq_ok_iff.2 ⟨before, hfirst, ih hrest⟩

/-- One more entry that fits decides its own capability and changes nothing else. -/
theorem normalize_concat (h : catalog.normalize selection = .ok (catalog.tabulate state, problems))
    (hc : c ∈ catalog.capabilities) (htakes : c.Takes v new) :
    catalog.normalize (selection ++ [⟨.text c.name, v⟩]) =
      .ok (catalog.tabulate (Function.update state c new), problems) := by
  obtain ⟨i, hi, hs, rfl⟩ := normalize_ok h
  have hjudge : catalog.judge ⟨.text c.name, v⟩ = .ok (.settled c.name new) :=
    judge_of_takes (named?_eq_some_iff.2 ⟨hc, rfl⟩) htakes
  have htable : catalog.snapshotOf (i.add (.settled c.name new)) =
      catalog.tabulate (Function.update state c new) := by
    apply tabulate_congr
    intro d hd
    rw [Intake.state?_add_settled]
    by_cases hdc : d = c
    · rw [hdc, if_pos rfl, Function.update_self, Option.getD_some]
    · have hne : d.name ≠ c.name := fun he => hdc (eq_of_name_eq hd hc he)
      have hget := get?_snapshotOf (i := i) hd
      rw [← hs, get?_tabulate_self hd, Option.some.injEq] at hget
      rw [if_neg hne, Function.update_of_ne hdc, hget]
  exact bind_eq_ok_iff.2 ⟨_, takeIn_concat hi hjudge, by rw [htable]; rfl⟩

theorem get?_tabulate_update_of_ne (hc : c ∈ catalog.capabilities) (hne : name ≠ c.name) :
    (catalog.tabulate (Function.update state c new)).get? name = (catalog.tabulate state).get? name := by
  rw [get?_tabulate, get?_tabulate]
  cases hlook : catalog.lookup? name with
  | none => rfl
  | some d =>
    have hdc : d ≠ c := by
      rintro rfl
      exact hne (lookup?_eq_some_iff.1 hlook).2.symm
    rw [Option.map_some, Option.map_some, Function.update_of_ne hdc]

/-- Another state of one capability leaves those of the others. -/
theorem agreeApart_update (hc : c ∈ catalog.capabilities) :
    (catalog.tabulate state).AgreeApart catalog c.name
      (catalog.tabulate (Function.update state c new)) where
  enabled other _ hne := by
    rw [Snapshot.isEnabled, Snapshot.isEnabled, get?_tabulate_update_of_ne hc hne]
  value other _ hne := by
    rw [Snapshot.valueOf?, Snapshot.valueOf?, get?_tabulate_update_of_ne hc hne]

/-- Turning a capability off takes its name, and no other, from the names that are on. -/
theorem enabledNames_update_of_off (hc : c ∈ catalog.capabilities) (hoff : new.enabled = false) :
    (catalog.tabulate (Function.update state c new)).enabledNames =
      (catalog.tabulate state).enabledNames.filter (· != c.name) := by
  rw [enabledNames_tabulate, enabledNames_tabulate, List.filter_map, List.filter_filter]
  congr 1
  apply List.filter_congr
  intro d hd
  by_cases hdc : d = c
  · subst hdc
    simp [hoff]
  · have hne : d.name ≠ c.name := fun he => hdc (eq_of_name_eq hd hc he)
    simp [Function.update_of_ne hdc, hne]

end Catalog

/-- The state of a capability that is turned off; a parameter falls back to its default. -/
def Capability.off (c : Capability) : State :=
  ⟨false, if c.kind = .parameter then some c.default.toInt else none, true⟩

theorem Capability.takes_false (c : Capability) : c.Takes (.bool false) c.off := by
  by_cases hk : c.kind = .parameter
  · simpa [off, hk] using Takes.removed hk
  · simpa [off, hk] using Takes.switch hk false

/-- The snapshot `t` is `s` with a capability turned off. -/
structure Snapshot.TurnsOff (catalog : Catalog) (c : Capability) (s t : Snapshot) : Prop
    extends s.AgreeApart catalog c.name t where
  off : t.isEnabled c.name = false
  default : c.kind = .parameter → t.valueOf? c.name = some c.default.toInt

/-- A snapshot with one state replaced by that of a capability turned off turns it off. -/
theorem Catalog.turnsOff_update {catalog : Catalog} {c : Capability} {state : Capability → State}
    (hc : c ∈ catalog.capabilities) :
    (catalog.tabulate state).TurnsOff catalog c
      (catalog.tabulate (Function.update state c c.off)) where
  toAgreeApart := agreeApart_update hc
  off := by rw [isEnabled_tabulate_self hc, Function.update_self, Capability.off]
  default hk := by rw [valueOf?_tabulate_self hc, Function.update_self, Capability.off, if_pos hk]

namespace RuleSet

variable {catalog : Catalog} {rules : RuleSet catalog} {s t : Snapshot} {c : Capability} {r : Rule}

/-- The subject of a dependency on what was turned off is off, as it was before if it is another. -/
theorem subject_off_of_dependency (h : s.TurnsOff catalog c t)
    (hfree : ∀ q ∈ rules.dependentsOf c.name, s.isEnabled q = false) (hr : r ∈ rules.rules)
    (hdependency : r.constraint.isDependency = true) (hmention : c.name ∈ r.identifiers) :
    t.isEnabled r.subject = false := by
  have hsound := sound_of_mem hr
  rcases List.mem_cons.1 hmention with hsubject | hobject
  · rw [← hsubject]
    exact h.off
  · have hne : r.subject ≠ c.name := fun he => hsound.irreflexive (he ▸ hobject)
    rw [h.enabled r.subject (hsound.known _ List.mem_cons_self) hne]
    exact hfree r.subject (mem_dependentsOf.2 ⟨r, hr, hdependency, hobject, rfl⟩)

/-- A rule that mentions what was turned off has nothing left to demand, or demands a default. -/
theorem holds_of_mention (h : s.TurnsOff catalog c t) (hc : c ∈ catalog.capabilities)
    (hfree : ∀ q ∈ rules.dependentsOf c.name, s.isEnabled q = false) (hr : r ∈ rules.rules)
    (hmention : c.name ∈ r.identifiers) : r.Holds catalog t := by
  cases hconstraint : r.constraint with
  | requires target =>
    have hoff := subject_off_of_dependency h hfree hr (by rw [hconstraint]; rfl) hmention
    simp [Rule.Holds, hconstraint, hoff]
  | requiresAny targets =>
    have hoff := subject_off_of_dependency h hfree hr (by rw [hconstraint]; rfl) hmention
    simp [Rule.Holds, hconstraint, hoff]
  | excludes target =>
    have hends : c.name = r.subject ∨ c.name = target := by
      simpa [Rule.identifiers, Rule.objects, Constraint.objects, hconstraint] using hmention
    rcases hends with hsubject | htarget
    · simp [Rule.Holds, hconstraint, ← hsubject, h.off]
    · simp [Rule.Holds, hconstraint, ← htarget, h.off]
  | range minimum maximum =>
    -- What was turned off is the parameter itself; its owner may still be on, and then the default counts.
    have hsubject : c.name = r.subject := by
      simpa [Rule.identifiers, Rule.objects, Constraint.objects, hconstraint] using hmention
    obtain ⟨d, hd, hdname, hk, _, hbounds⟩ := (sound_of_mem hr).range minimum maximum hconstraint
    cases Catalog.eq_of_name_eq hc hd (hsubject.trans hdname.symm)
    obtain ⟨owner, _, howner, _⟩ := Catalog.exists_owner hc (by rw [hk]; decide)
    rw [Catalog.holds_range_iff hc hsubject howner (hsubject ▸ h.default hk) hconstraint]
    exact fun _ => hbounds

/-- A range is not asked for while the owner of its parameter is off. -/
theorem holds_of_owner_off (h : s.TurnsOff catalog c t) (hrange : r.kind = .range)
    (howned : r.subject ∈ catalog.ownedBy c.name) : r.Holds catalog t := by
  cases hconstraint : r.constraint with
  | range minimum maximum =>
    obtain ⟨d, hd, howner, hdname⟩ := Catalog.mem_ownedBy.1 howned
    simp only [Rule.Holds, hconstraint]
    refine ⟨d, hd, hdname, c.name, howner, fun hon => ?_⟩
    rw [h.off] at hon
    cases hon
  | _ => simp [Rule.kind, hconstraint, Constraint.kind] at hrange

/-- Turning off what nothing that is on depends on breaks no rule. -/
theorem holds_of_turnsOff (h : s.TurnsOff catalog c t) (hc : c ∈ catalog.capabilities)
    (hs : s.Numbered catalog) (ht : t.Numbered catalog)
    (hfree : ∀ q ∈ rules.dependentsOf c.name, s.isEnabled q = false) (hr : r ∈ rules.rules)
    (hholds : r.Holds catalog s) : r.Holds catalog t := by
  by_cases haffects : rules.Affects c.name r
  · rcases haffects with hmention | ⟨hrange, howned⟩
    · exact holds_of_mention h hc hfree hr (mem_mentioning.1 hmention).2
    · exact holds_of_owner_off h hrange howned
  · have hsound := sound_of_mem hr
    rw [← Catalog.check_eq_none_iff hsound ht, ← check_eq_of_agree h.toAgreeApart hr haffects,
      Catalog.check_eq_none_iff hsound hs]
    exact hholds

end RuleSet

/-- Removal is safe: what nothing that is on depends on can be turned off in a certified selection, and
then it is missing from the names that are on, and no other. -/
theorem Tables.removed_of_free {tables : Tables} {selection : List Entry} {verdict : Verdict}
    {certificate : Certificate} {name : String}
    (h : (tables.validate selection).result = .ok verdict)
    (hcertificate : verdict.certificate = some certificate)
    (hname : name ∈ tables.catalog.identifiers)
    (hfree : ∀ q ∈ tables.rules.dependentsOf name, certificate.snapshot.isEnabled q = false) :
    ∃ again rest,
      (tables.validate (selection ++ [⟨.text name, .bool false⟩])).result = .ok again ∧
      again.passed = true ∧ again.certificate = some rest ∧
      rest.snapshot.enabledNames = certificate.snapshot.enabledNames.filter (· != name) := by
  obtain ⟨c, hc, rfl⟩ := Catalog.mem_identifiers.1 hname
  obtain ⟨s, problems, hnormal, rfl⟩ := validate_ok h
  obtain ⟨rfl, hnone, rfl⟩ := RuleSet.certificate_verdict_eq_some_iff.1 hcertificate
  have hn := catalog_normalize_of_result hnormal
  have hs := Catalog.numbered_normalize hn
  obtain ⟨state, rfl, _⟩ := Catalog.exists_tabulate_of_normalize hn
  have hagain := Catalog.normalize_concat hn hc c.takes_false
  have ht := Catalog.numbered_normalize hagain
  have hrules :
      tables.rules.violations (tables.catalog.tabulate (Function.update state c c.off)) = [] := by
    rw [RuleSet.violations_eq_nil_iff ht]
    intro r hr
    exact RuleSet.holds_of_turnsOff (Catalog.turnsOff_update hc) hc hs ht hfree hr
      ((RuleSet.violations_eq_nil_iff hs).1 hnone r hr)
  obtain ⟨hpassed, hcertified⟩ := RuleSet.certified_of_violations_eq_nil hrules
  exact ⟨_, _, result_validate_of_normalize (result_normalize_of_catalog hagain), hpassed, hcertified,
    Catalog.enabledNames_update_of_off hc rfl⟩

/-- In the sample only one flag depends on the generator; while that is off, the generator can go. -/
theorem removed_of_sample :
    let selection : List Entry := [⟨.text "DES", .bool true⟩, ⟨.text "ROUNDS", .int 6⟩]
    let certificate : Certificate := ⟨"sample", ⟨[("AES", ⟨false, none, false⟩),
      ("DES", ⟨true, none, true⟩), ("RNG", ⟨true, none, false⟩), ("ROUNDS", ⟨true, some 6, true⟩)]⟩⟩
    let verdict : Verdict := ⟨"sample", some certificate, [], 3, 3⟩
    (sampleTables.validate selection).result = .ok verdict ∧
      "RNG" ∈ sampleCatalog.identifiers ∧
      sampleTables.rules.dependentsOf "RNG" = ["AES"] ∧
      (∀ q ∈ sampleTables.rules.dependentsOf "RNG", certificate.snapshot.isEnabled q = false) ∧
      ∃ again rest,
        (sampleTables.validate (selection ++ [⟨.text "RNG", .bool false⟩])).result = .ok again ∧
        again.passed = true ∧ again.certificate = some rest ∧
        rest.snapshot.enabledNames = certificate.snapshot.enabledNames.filter (· != "RNG") := by
  intro selection certificate verdict
  have hverdict : (sampleTables.validate selection).result = .ok verdict := rfl
  have hname : "RNG" ∈ sampleTables.catalog.identifiers := by decide
  have hdependents : sampleTables.rules.dependentsOf "RNG" = ["AES"] := by decide
  have hfree : ∀ q ∈ sampleTables.rules.dependentsOf "RNG",
      certificate.snapshot.isEnabled q = false := by
    rw [hdependents]
    decide
  exact ⟨hverdict, hname, hdependents, hfree, Tables.removed_of_free hverdict rfl hname hfree⟩

end FeatureCert
