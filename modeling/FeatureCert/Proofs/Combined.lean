import FeatureCert.Proofs.Merged
import FeatureCert.Proofs.Tabulated

/-!
Sources of a selection, merged first or taken in one behind the other. Either way the last pair of a name
decides, and so the snapshot is the same; of the problems, merging keeps those of the last pairs.
-/
namespace FeatureCert

open FeatureCert.Selection

/-- Entries with the same last entry under every name of a catalog have the same snapshot. -/
theorem Catalog.snapshot_eq_of_isLast_iff {catalog : Catalog} {selection other : List Entry}
    {s t : Snapshot} {problems problems' : List Violation}
    (hs : catalog.normalize selection = .ok (s, problems))
    (ht : catalog.normalize other = .ok (t, problems'))
    (hlast : ∀ c ∈ catalog.capabilities, ∀ e, IsLast selection c.name e ↔ IsLast other c.name e) :
    s = t := by
  obtain ⟨state, rfl, _⟩ := exists_tabulate_of_normalize hs
  obtain ⟨state', rfl, _⟩ := exists_tabulate_of_normalize ht
  apply tabulate_congr
  intro c hc
  have hget : (catalog.tabulate state').get? c.name = (catalog.tabulate state).get? c.name := by
    rcases get?_normalize_cases hs hc with ⟨hdefault, hunfit⟩ | ⟨e, own, hown, he, htakes⟩
    · rw [hdefault]
      exact get?_normalize_of_unfit ht hc fun e he => hunfit e ((hlast c hc e).2 he)
    · rw [hown]
      exact get?_normalize_of_takes ht hc ((hlast c hc e).1 he) htakes
  rw [get?_tabulate_self hc, get?_tabulate_self hc, Option.some.injEq] at hget
  exact hget.symm

section Problems

variable {catalog : Catalog} {selection : List Entry} {e : Entry} {v : Violation}
  {vs : List Violation}

/-- The entry, taken alone, is the problem `v`. -/
def Catalog.Rejects (catalog : Catalog) (e : Entry) (v : Violation) : Prop :=
  Complaints catalog [e] [v]

/-- The problem that a judgement reports. -/
def Judgement.problem? : Judgement → Option Violation
  | .unknown subject => some ⟨subject, .unknownCapability⟩
  | .unfit name value expected => some ⟨name, .invalidValue value expected⟩
  | .settled .. => none

/-- The problem of an entry that can be judged. -/
def Catalog.problem? (catalog : Catalog) (e : Entry) : Option Violation :=
  (catalog.judge e).toOption.bind Judgement.problem?

/-- Complaints are given entry by entry, each of them by its entry alone. -/
theorem Complaints.eq_filterMap (h : Complaints catalog selection vs) :
    vs = selection.filterMap catalog.problem? := by
  induction h with
  | nil => rfl
  | fit hc hname hfit _ ih =>
    obtain ⟨state, htakes⟩ := hfit
    have hjudge := Catalog.judge_of_takes (Catalog.named?_eq_some_iff.2 ⟨hc, hname⟩) htakes
    rw [List.filterMap_cons_none (by rw [Catalog.problem?, hjudge]; rfl)]
    exact ih
  | unknown hname htext _ ih =>
    have hjudge := Catalog.judge_of_none (Catalog.named?_eq_none_iff.2 hname)
    rw [htext] at hjudge
    rw [List.filterMap_cons_some (by rw [Catalog.problem?, hjudge]; rfl), ← ih]
  | unfit hc hname hfit htext _ ih =>
    have hjudge := Catalog.judge_of_unfit (Catalog.named?_eq_some_iff.2 ⟨hc, hname⟩) hfit
    rw [htext] at hjudge
    rw [List.filterMap_cons_some (by rw [Catalog.problem?, hjudge]; rfl), ← ih]

/-- The problems of a run are those of its entries, each taken alone, one behind the other. -/
theorem Complaints.exists_parts (h : Complaints catalog selection vs) :
    ∃ parts, vs = parts.flatten ∧
      List.Forall₂ (fun e ws => Complaints catalog [e] ws) selection parts := by
  induction h with
  | nil => exact ⟨[], rfl, .nil⟩
  | fit hc hname hfit _ ih =>
    obtain ⟨parts, rfl, hparts⟩ := ih
    exact ⟨[] :: parts, rfl, .cons (.fit hc hname hfit .nil) hparts⟩
  | unknown hname htext _ ih =>
    obtain ⟨parts, rfl, hparts⟩ := ih
    exact ⟨[_] :: parts, rfl, .cons (.unknown hname htext .nil) hparts⟩
  | unfit hc hname hfit htext _ ih =>
    obtain ⟨parts, rfl, hparts⟩ := ih
    exact ⟨[_] :: parts, rfl, .cons (.unfit hc hname hfit htext .nil) hparts⟩

theorem Complaints.rejects_iff (h : Complaints catalog selection vs) (he : e ∈ selection) :
    catalog.Rejects e v ↔ catalog.problem? e = some v := by
  constructor
  · intro hv
    have hone := hv.eq_filterMap
    cases hp : catalog.problem? e with
    | none => simp [hp] at hone
    | some w => simpa [hp] using hone.symm
  · intro hv
    obtain ⟨parts, _, hparts⟩ := h.exists_parts
    obtain ⟨ws, _, hws⟩ := exists_of_mem_forall₂ hparts.flip he
    have hone := hws.eq_filterMap
    rw [List.filterMap_cons_some hv, List.filterMap_nil] at hone
    rw [hone] at hws
    exact hws

/-- A problem is reported under the name of its pair. -/
theorem Catalog.Rejects.subject {name : String} {assigned : Value}
    (h : catalog.Rejects ⟨.text name, assigned⟩ v) : v.subject = name := by
  cases h with
  | fit _ _ _ hrest => cases hrest
  | unknown _ htext _ => exact (Except.ok.inj htext).symm
  | unfit _ hname _ _ _ => exact (Value.text.inj hname).symm

end Problems

section Merging

variable {catalog : Catalog} {pairs : List (String × Value)} {problems kept : List Violation}

theorem isLast_collect_iff {name : String} {e : Entry} :
    IsLast ((collect pairs).map Entry.ofPair) name e ↔ IsLast (pairs.map Entry.ofPair) name e := by
  simp only [isLast_map_ofPair_iff, isLastPair_iff_of_nodup (nodup_names_collect pairs),
    mem_collect_iff]

theorem mem_map_ofPair_collect {e : Entry} (he : e ∈ (collect pairs).map Entry.ofPair) :
    e ∈ pairs.map Entry.ofPair := by
  obtain ⟨p, hp, rfl⟩ := List.mem_map.1 he
  exact List.mem_map_of_mem (mem_collect_iff.1 hp).mem

/-- What merging keeps of the problems of pairs. The list `problems` has the problems of each pair in turn,
`kept` those of the last pair of each name. -/
structure Catalog.KeepsLast (catalog : Catalog) (pairs : List (String × Value))
    (problems kept : List Violation) : Prop where
  parts : ∃ parts, problems = parts.flatten ∧
    List.Forall₂ (fun p vs => Complaints catalog [.ofPair p] vs) pairs parts
  last : ∀ name v, v ∈ kept ∧ v.subject = name ↔
    ∃ value, IsLastPair pairs name value ∧ catalog.Rejects (.ofPair (name, value)) v
  once : (kept.map (·.subject)).Nodup
  dropped : ∃ dropped, problems.Perm (kept ++ dropped) ∧
    ∀ v ∈ dropped, ∃ p, Overridden pairs p ∧ catalog.Rejects (.ofPair p) v

/-- A problem is reported exactly where a pair, taken alone, is rejected. -/
theorem Complaints.mem_iff (h : Complaints catalog (pairs.map .ofPair) problems) {v : Violation} :
    v ∈ problems ↔ ∃ p ∈ pairs, catalog.Rejects (.ofPair p) v := by
  rw [h.eq_filterMap, List.filterMap_map, List.mem_filterMap]
  constructor
  · rintro ⟨p, hp, hv⟩
    exact ⟨p, hp, (h.rejects_iff (List.mem_map_of_mem hp)).2 hv⟩
  · rintro ⟨p, hp, hv⟩
    exact ⟨p, hp, (h.rejects_iff (List.mem_map_of_mem hp)).1 hv⟩

/-- Pairs with different names have problems with different subjects. -/
theorem Complaints.nodup_subjects (h : Complaints catalog (pairs.map .ofPair) problems)
    (hnames : (pairs.map (·.1)).Nodup) : (problems.map (·.subject)).Nodup := by
  have hsubject : ∀ p ∈ pairs, ∀ v, catalog.problem? (.ofPair p) = some v → v.subject = p.1 :=
    fun p hp v hv => Catalog.Rejects.subject ((h.rejects_iff (List.mem_map_of_mem hp)).2 hv)
  rw [List.Nodup, List.pairwise_map] at hnames ⊢
  rw [h.eq_filterMap, List.filterMap_map, List.pairwise_filterMap]
  apply hnames.imp_of_mem
  intro p q hp hq hne v hv w hw
  rw [hsubject p hp v hv, hsubject q hq w hw]
  exact hne

/-- The problems that merging keeps are those of the last pair of each name. -/
theorem Complaints.keepsLast (h : Complaints catalog (pairs.map .ofPair) problems)
    (hkept : Complaints catalog ((collect pairs).map .ofPair) kept) :
    catalog.KeepsLast pairs problems kept where
  parts := by
    obtain ⟨parts, hflat, hparts⟩ := h.exists_parts
    rw [List.forall₂_map_left_iff] at hparts
    exact ⟨parts, hflat, hparts⟩
  last name v := by
    rw [hkept.mem_iff]
    constructor
    · rintro ⟨⟨p, hp, hv⟩, rfl⟩
      rw [hv.subject]
      exact ⟨p.2, mem_collect_iff.1 hp, hv⟩
    · rintro ⟨value, hlast, hv⟩
      exact ⟨⟨_, mem_collect_iff.2 hlast, hv⟩, hv.subject⟩
  once := hkept.nodup_subjects (nodup_names_collect pairs)
  dropped := by
    obtain ⟨rest, hperm, hrest⟩ := exists_perm_collect pairs
    refine ⟨(rest.map Entry.ofPair).filterMap catalog.problem?, ?_, ?_⟩
    · rw [h.eq_filterMap, hkept.eq_filterMap, ← List.filterMap_append, ← List.map_append]
      exact (hperm.map _).filterMap _
    · intro v hv
      rw [List.filterMap_map] at hv
      obtain ⟨p, hp, hv⟩ := List.mem_filterMap.1 hv
      have hover := hrest p hp
      exact ⟨p, hover, (h.rejects_iff (List.mem_map_of_mem hover.mem)).2 hv⟩

/-- Merging sources keeps the snapshot that they have one behind the other, and so the broken rules and the
number of what is on. It may only drop problems of pairs that are overridden. -/
theorem Tables.merged_of_normalize {tables : Tables} {sources : List (List (String × Value))}
    {s : Snapshot} {problems : List Violation}
    (h : (tables.normalize (sources.flatten.map .ofPair)).result = .ok (s, problems)) :
    ∃ kept, (tables.normalize ((merge sources).map .ofPair)).result = .ok (s, kept) ∧
      tables.catalog.KeepsLast sources.flatten problems kept ∧
      ∃ plain merged, (tables.validate (sources.flatten.map .ofPair)).result = .ok plain ∧
        (tables.validate ((merge sources).map .ofPair)).result = .ok merged ∧
        plain.violations = problems ++ tables.rules.violations s ∧
        merged.violations = kept ++ tables.rules.violations s ∧
        merged.enabledCount = plain.enabledCount ∧
        (plain.passed = true → merged.passed = true ∧ ∃ certificate,
          plain.certificate = some certificate ∧ merged.certificate = some certificate) := by
  have hplain := catalog_normalize_of_result h
  obtain ⟨⟨t, kept⟩, hmerged⟩ : ∃ p,
      tables.catalog.normalize ((merge sources).map .ofPair) = .ok p :=
    Catalog.normalize_ok_iff.2 fun e he =>
      Catalog.normalize_ok_iff.1 ⟨_, hplain⟩ e (mem_map_ofPair_collect he)
  obtain rfl : t = s :=
    Catalog.snapshot_eq_of_isLast_iff hmerged hplain fun _ _ _ => isLast_collect_iff
  have hkeeps := (Catalog.complaints_normalize hplain).keepsLast
    (Catalog.complaints_normalize hmerged)
  have hresult := result_normalize_of_catalog hmerged
  refine ⟨kept, hresult, hkeeps, _, _, result_validate_of_normalize h,
    result_validate_of_normalize hresult, rfl, rfl, rfl, ?_⟩
  intro hpassed
  obtain ⟨rfl, hrules⟩ := RuleSet.violations_verdict_eq_nil_iff.1 (List.isEmpty_iff.1 hpassed)
  obtain ⟨dropped, hperm, _⟩ := hkeeps.dropped
  obtain ⟨rfl, _⟩ := List.append_eq_nil_iff.1 hperm.symm.eq_nil
  obtain ⟨hpass, hcertificate⟩ := RuleSet.certified_of_violations_eq_nil hrules
  exact ⟨hpass, _, hcertificate, hcertificate⟩

end Merging

/-- A value that does not fit is a problem until a later source gives another. -/
theorem merged_of_overridden :
    let sources : List (List (String × Value)) :=
      [[("AES", .bool true), ("ROUNDS", .text "x")], [("DES", .null), ("ROUNDS", .int 6)],
        [("DES", .bool false)]]
    let s : Snapshot := ⟨[("AES", ⟨true, none, true⟩), ("DES", ⟨false, none, true⟩),
      ("RNG", ⟨true, none, false⟩), ("ROUNDS", ⟨true, some 6, true⟩)]⟩
    let problems : List Violation := [⟨"ROUNDS", .invalidValue "'x'" "int"⟩]
    (sampleTables.normalize (sources.flatten.map .ofPair)).result = .ok (s, problems) ∧
      ∃ kept, (sampleTables.normalize ((merge sources).map .ofPair)).result = .ok (s, kept) ∧
        sampleCatalog.KeepsLast sources.flatten problems kept ∧
        ∃ plain merged, (sampleTables.validate (sources.flatten.map .ofPair)).result = .ok plain ∧
          (sampleTables.validate ((merge sources).map .ofPair)).result = .ok merged ∧
          plain.violations = problems ++ sampleTables.rules.violations s ∧
          merged.violations = kept ++ sampleTables.rules.violations s ∧
          merged.enabledCount = plain.enabledCount ∧
          (plain.passed = true → merged.passed = true ∧ ∃ certificate,
            plain.certificate = some certificate ∧ merged.certificate = some certificate) := by
  intro sources s problems
  have h : (sampleTables.normalize (sources.flatten.map .ofPair)).result = .ok (s, problems) := rfl
  exact ⟨h, Tables.merged_of_normalize h⟩

end FeatureCert
