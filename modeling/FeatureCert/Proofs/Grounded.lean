import FeatureCert.Proofs.Breach
import FeatureCert.Proofs.Outcomes
import Mathlib.Data.List.ReduceOption

/-!
Rules find all that they ask for. A check that fails where a capability, an owner, a state or a number is
missing goes through for every rule over a normal form, and finds what the check with its fallbacks finds.
-/
namespace FeatureCert

/-- What a check may ask for in vain. -/
inductive Missing where
  | capability (name : String)
  | owner (parameter : String)
  | state (name : String)
  | number (parameter : String)
  deriving DecidableEq, Repr

namespace Snapshot

def stateOf (s : Snapshot) (name : String) : Except Missing State :=
  match s.get? name with
  | some state => return state
  | none => throw (.state name)

/-- Whether a name is on, where a name without a state is not off. -/
def enabledOf (s : Snapshot) (name : String) : Except Missing Bool := do
  let state ← s.stateOf name
  return state.enabled

def numberOf (s : Snapshot) (name : String) : Except Missing Int := do
  let state ← s.stateOf name
  match state.value with
  | some n => return n
  | none => throw (.number name)

/-- Every name of a catalog has a state. -/
def Covers (catalog : Catalog) (s : Snapshot) : Prop :=
  ∀ name ∈ catalog.identifiers, ∃ state, s.get? name = some state

variable {s : Snapshot} {name : String} {names : List String} {state : State} {n : Int}

theorem stateOf_eq (h : s.get? name = some state) : s.stateOf name = pure state := by
  rw [stateOf, h]

theorem enabledOf_eq (h : s.get? name = some state) : s.enabledOf name = pure (s.isEnabled name) := by
  rw [enabledOf, stateOf_eq h, pure_bind, isEnabled, h]
  rfl

theorem numberOf_eq (h : s.valueOf? name = some n) : s.numberOf name = pure n := by
  obtain ⟨state, hstate, hvalue⟩ := Option.bind_eq_some_iff.1 h
  rw [numberOf, stateOf_eq hstate, pure_bind, hvalue]

/-- Where every name has a state, asking for it fails nowhere. -/
theorem anyM_enabledOf_eq (h : ∀ name ∈ names, ∃ state, s.get? name = some state) :
    names.anyM s.enabledOf = pure (names.any s.isEnabled) := by
  induction names with
  | nil => rfl
  | cons name rest ih =>
    rw [List.forall_mem_cons] at h
    obtain ⟨⟨state, hstate⟩, hrest⟩ := h
    rw [List.anyM, enabledOf_eq hstate, pure_bind, List.any_cons]
    cases s.isEnabled name with
    | true => rfl
    | false => exact ih hrest

end Snapshot

namespace Catalog

variable {catalog : Catalog} {selection : List Entry} {s : Snapshot} {problems : List Violation}
  {r : Rule} {minimum maximum : Int}

theorem covers_normalize (h : catalog.normalize selection = .ok (s, problems)) : s.Covers catalog := by
  intro name hname
  obtain ⟨c, hc, rfl⟩ := mem_identifiers.1 hname
  obtain ⟨state, hstate, _⟩ := value_normalize h hc
  exact ⟨state, hstate⟩

/-- The check of a range, which fails at whatever is missing. -/
def checkRangeStrictly (catalog : Catalog) (s : Snapshot) (r : Rule) (minimum maximum : Int) :
    Except Missing (Option Violation) := do
  match catalog.lookup? r.subject with
  | none => throw (.capability r.subject)
  | some c =>
    match c.owner with
    | none => throw (.owner r.subject)
    | some owner =>
      if ← s.enabledOf owner then
        let n ← s.numberOf r.subject
        if minimum ≤ n ∧ n ≤ maximum then return none
        else return some ⟨r.subject, .outOfRangeParameter n minimum maximum r.note⟩
      else return none

/-- The check of a rule, which fails at whatever is missing that it comes to ask for. -/
def checkStrictly (catalog : Catalog) (s : Snapshot) (r : Rule) : Except Missing (Option Violation) :=
  match r.constraint with
  | .requires target => do
    if ← s.enabledOf r.subject then
      if ← s.enabledOf target then return none
      else return some ⟨r.subject, .missingDependency target r.note⟩
    else return none
  | .requiresAny targets => do
    if ← s.enabledOf r.subject then
      if ← targets.anyM s.enabledOf then return none
      else return some ⟨r.subject, .unsatisfiedAny targets r.note⟩
    else return none
  | .excludes target => do
    if ← s.enabledOf r.subject then
      if ← s.enabledOf target then return some ⟨r.subject, .conflictingExclusion target r.note⟩
      else return none
    else return none
  | .range minimum maximum => catalog.checkRangeStrictly s r minimum maximum

/-- The parameter that a sound range is about, with its owner, its owner's state and its number. -/
theorem exists_range_parts (hr : r.Sound catalog) (hcovers : s.Covers catalog)
    (hs : s.Numbered catalog) (hrange : r.constraint = .range minimum maximum) :
    ∃ c owner state n, catalog.lookup? r.subject = some c ∧ c.owner = some owner.name ∧
      catalog.lookup? owner.name = some owner ∧ owner.kind = .flag ∧
      s.get? owner.name = some state ∧ s.valueOf? r.subject = some n := by
  obtain ⟨c, hc, hname, hk, owner, hmem, howner, hflag⟩ := hr.exists_owned hrange
  obtain ⟨state, hstate⟩ := hcovers owner.name (mem_identifiers.2 ⟨owner, hmem, rfl⟩)
  obtain ⟨n, hn⟩ := hs c hc hk
  exact ⟨c, owner, state, n, lookup?_eq_some_iff.2 ⟨hc, hname⟩, howner, lookup?_self hmem, hflag, hstate,
    hname ▸ hn⟩

/-- A sound range has an owner with a state and a parameter with a number. -/
theorem checkRangeStrictly_eq (hr : r.Sound catalog) (hcovers : s.Covers catalog)
    (hs : s.Numbered catalog) (hrange : r.constraint = .range minimum maximum) :
    catalog.checkRangeStrictly s r minimum maximum = pure (catalog.checkRange s r minimum maximum) := by
  obtain ⟨c, owner, state, n, hc, howner, _, _, hstate, hn⟩ := exists_range_parts hr hcovers hs hrange
  simp only [checkRangeStrictly, checkRange, hc, howner, Snapshot.enabledOf_eq hstate,
    Snapshot.numberOf_eq hn, hn, pure_bind, Option.bind_eq_bind, Option.bind_some, Option.getD_some]
  cases s.isEnabled owner.name with
  | false => rfl
  | true =>
    by_cases hin : minimum ≤ n ∧ n ≤ maximum
    · simp only [hin, and_self, if_true]
    · simp only [hin, if_true, if_false]

/-- Nothing that the check of a sound rule falls back on is ever needed. -/
theorem checkStrictly_eq (hr : r.Sound catalog) (hcovers : s.Covers catalog) (hs : s.Numbered catalog) :
    catalog.checkStrictly s r = pure (catalog.check s r) := by
  have hstate (name : String) (hname : name ∈ r.identifiers) : ∃ state, s.get? name = some state :=
    hcovers name (hr.known name hname)
  obtain ⟨_, hsubject⟩ := hstate r.subject List.mem_cons_self
  have hobject (name : String) (hname : name ∈ r.objects) : ∃ state, s.get? name = some state :=
    hstate name (List.mem_cons_of_mem _ hname)
  unfold Rule.objects at hobject
  unfold checkStrictly check
  -- With nothing missing, both checks branch on the same states.
  cases hconstraint : r.constraint with
  | requires target =>
    rw [hconstraint] at hobject
    obtain ⟨_, htarget⟩ := hobject target List.mem_cons_self
    simp only [Snapshot.enabledOf_eq hsubject, Snapshot.enabledOf_eq htarget, pure_bind]
    cases s.isEnabled r.subject <;> cases s.isEnabled target <;> rfl
  | requiresAny targets =>
    rw [hconstraint] at hobject
    have hany : targets.anyM s.enabledOf = pure (targets.any s.isEnabled) :=
      Snapshot.anyM_enabledOf_eq hobject
    simp only [Snapshot.enabledOf_eq hsubject, hany, pure_bind]
    cases s.isEnabled r.subject <;> cases targets.any s.isEnabled <;> rfl
  | excludes target =>
    rw [hconstraint] at hobject
    obtain ⟨_, htarget⟩ := hobject target List.mem_cons_self
    simp only [Snapshot.enabledOf_eq hsubject, Snapshot.enabledOf_eq htarget, pure_bind]
    cases s.isEnabled r.subject <;> cases s.isEnabled target <;> rfl
  | range minimum maximum => exact checkRangeStrictly_eq hr hcovers hs hconstraint

end Catalog

namespace RuleSet

variable {catalog : Catalog} {rules : RuleSet catalog} {s : Snapshot}

/-- Violations of all rules in the order of a run, or the first thing that one of them misses. -/
def violationsStrictly (rules : RuleSet catalog) (s : Snapshot) : Except Missing (List Violation) :=
  List.reduceOption <$> rules.evaluated.mapM (catalog.checkStrictly s)

/-- The walk that fails at whatever is missing comes to what the one with defaults does. -/
theorem violationsStrictly_eq (hcovers : s.Covers catalog) (hs : s.Numbered catalog) :
    rules.violationsStrictly s = .ok (rules.violations s) := by
  have hcheck : ∀ r ∈ rules.evaluated, catalog.checkStrictly s r = pure (catalog.check s r) :=
    fun r hr => Catalog.checkStrictly_eq (sound_of_mem (mem_evaluated_iff.1 hr)) hcovers hs
  rw [violationsStrictly, mapM_congr_of_mem hcheck, List.mapM_pure, map_pure, violations_eq_filterMap,
    List.reduceOption, List.filterMap_map]
  rfl

end RuleSet

theorem Catalog.demand_of_lookup? {catalog : Catalog} {name : String} {c : Capability}
    (h : catalog.lookup? name = some c) : catalog.demand (.text name) = .ok c := by
  rw [demand, named?, h]
  rfl

/-- What the rules of tables ask for is there, in the catalog and in a snapshot of a selection. -/
structure Tables.Grounded (tables : Tables) (selection : List Entry) (s : Snapshot)
    (problems : List Violation) : Prop where
  known : ∀ r ∈ tables.rules.rules, ∀ name ∈ r.identifiers, name ∈ s.names
  range : ∀ r ∈ tables.rules.rules, ∀ minimum maximum, r.constraint = .range minimum maximum →
    ∃ c owner state n, tables.catalog.demand (.text r.subject) = .ok c ∧ c.owner = some owner.name ∧
      tables.catalog.demand (.text owner.name) = .ok owner ∧ owner.kind = .flag ∧
      s.get? owner.name = some state ∧ s.valueOf? r.subject = some n
  found : ∃ verdict broken, (tables.validate selection).result = .ok verdict ∧
    tables.rules.violationsStrictly s = .ok broken ∧ verdict.violations = problems ++ broken

/-- No rule is checked against a missing state. The entries may be listed pairs, those of a dictionary, or
those of an earlier snapshot. -/
theorem Tables.grounded_of_normalize {tables : Tables} {selection : List Entry} {s : Snapshot}
    {problems : List Violation} (h : (tables.normalize selection).result = .ok (s, problems)) :
    tables.Grounded selection s problems := by
  have hn := catalog_normalize_of_result h
  have hcovers := Catalog.covers_normalize hn
  have hnumbered := Catalog.numbered_normalize hn
  constructor
  case known =>
    intro r hr name hname
    rw [Catalog.names_normalize hn]
    exact (RuleSet.sound_of_mem hr).known name hname
  case range =>
    intro r hr minimum maximum hrange
    obtain ⟨c, owner, state, n, hc, howner, hlookup, hflag, hstate, hvalue⟩ :=
      Catalog.exists_range_parts (RuleSet.sound_of_mem hr) hcovers hnumbered hrange
    exact ⟨c, owner, state, n, Catalog.demand_of_lookup? hc, howner, Catalog.demand_of_lookup? hlookup,
      hflag, hstate, hvalue⟩
  case found =>
    exact ⟨_, _, result_validate_of_normalize h, RuleSet.violationsStrictly_eq hcovers hnumbered, rfl⟩

/-- The sample's rules over a selection that breaks the range, and over a snapshot without states. -/
theorem grounded_of_sample :
    let selection : List Entry := [⟨.text "AES", .bool true⟩, ⟨.text "ROUNDS", .int 9⟩]
    let s : Snapshot := ⟨[("AES", ⟨true, none, true⟩), ("DES", ⟨false, none, false⟩),
      ("RNG", ⟨true, none, false⟩), ("ROUNDS", ⟨true, some 9, true⟩)]⟩
    (sampleTables.normalize selection).result = .ok (s, []) ∧ sampleTables.Grounded selection s [] ∧
      sampleTables.rules.violationsStrictly s =
        .ok [⟨"ROUNDS", .outOfRangeParameter 9 1 8 none⟩] ∧
      sampleTables.rules.violationsStrictly ⟨[]⟩ = .error (.state "AES") :=
  ⟨rfl, Tables.grounded_of_normalize rfl, rfl, rfl⟩

end FeatureCert
